import Tollgate.Proofs.Dns.Plan
import Tollgate.Text.Idna.Scripts

/-!
# What a query costs

A query has many ends, before and after it is forwarded. `Resolver.Resolved` says once how it may
end: with its answer, the ledger that it leaves, and what was forwarded. Two things are read off
these ends. The recursor is asked at most once, so two recursors that agree on the forwarded query
cannot be told apart. And a debit is made exactly where an answer of the recursor is delivered.
-/

namespace Tollgate.Dns.Resolver

variable {resolver : Resolver} {recursor other : Recursor} {query : Query} {now : Instant}
variable {token : String} {ledger : Ledger} {store later : Store}
variable {forwarded answer : Octets} {multiplier : Int} {error : ResolveError}

/-! ## Ends of a query -/

section

variable (resolver : Resolver) (recursor : Recursor)

theorem resolve_of_denied (denied : authorize query now ledger = .error error) :
    resolver.resolve recursor query now ledger = ⟨.error error, ledger, none⟩ := by
  simp only [resolve, denied]

theorem resolve_of_failed (served : authorize query now ledger = .ok token)
    (failed : resolver.plan token query = .error error) :
    resolver.resolve recursor query now ledger = ⟨.error error, ledger, none⟩ := by
  simp only [resolve, served, failed]

theorem resolve_of_own (served : authorize query now ledger = .ok token)
    (planned : resolver.plan token query = .ok (.answer answer)) :
    resolver.resolve recursor query now ledger = ⟨.ok answer, ledger, none⟩ := by
  simp only [resolve, served, planned]

theorem resolve_of_forward (served : authorize query now ledger = .ok token)
    (planned : resolver.plan token query = .ok (.forward forwarded multiplier)) :
    resolver.resolve recursor query now ledger =
      match recursor forwarded with
      | none => ⟨.error .exchangeFailed, ledger, some forwarded⟩
      | some answer =>
        ⟨(settle token forwarded answer multiplier now ledger).1,
          (settle token forwarded answer multiplier now ledger).2, some forwarded⟩ := by
  cases answered : recursor forwarded with
  | none => simp only [resolve, served, planned, answered]
  | some answer => simp only [resolve, served, planned, answered]

end

/-- How a query of a ticket store may end. -/
inductive Resolved (resolver : Resolver) (recursor : Recursor) (query : Query) (now : Instant)
    (store : Store) : Resolution → Prop where
  | denied (denied : authorize query now (.store store) = .error .unauthorized) :
      Resolved resolver recursor query now store ⟨.error .unauthorized, .store store, none⟩
  | failed {token : String} {error : ResolveError}
      (served : authorize query now (.store store) = .ok token)
      (failed : resolver.plan token query = .error error) :
      Resolved resolver recursor query now store ⟨.error error, .store store, none⟩
  | own {token : String} {answer : Octets} (served : authorize query now (.store store) = .ok token)
      (planned : resolver.plan token query = .ok (.answer answer)) :
      Resolved resolver recursor query now store ⟨.ok answer, .store store, none⟩
  | unanswered {token : String} {forwarded : Octets} {multiplier : Int}
      (served : authorize query now (.store store) = .ok token)
      (planned : resolver.plan token query = .ok (.forward forwarded multiplier))
      (silent : recursor forwarded = none) :
      Resolved resolver recursor query now store
        ⟨.error .exchangeFailed, .store store, some forwarded⟩
  | unpriced {token : String} {forwarded answer : Octets} {multiplier : Int}
      (served : authorize query now (.store store) = .ok token)
      (planned : resolver.plan token query = .ok (.forward forwarded multiplier))
      (answered : recursor forwarded = some answer)
      (unpriced : price? forwarded answer multiplier = none) :
      Resolved resolver recursor query now store
        ⟨.error .priceOutOfRange, .store store, some forwarded⟩
  | withheld {token : String} {forwarded answer : Octets} {multiplier amount : Int}
      {reason : LedgerError} (served : authorize query now (.store store) = .ok token)
      (planned : resolver.plan token query = .ok (.forward forwarded multiplier))
      (answered : recursor forwarded = some answer)
      (priced : price? forwarded answer multiplier = some amount)
      (refused : store.cost token amount now = .error reason) :
      Resolved resolver recursor query now store
        ⟨.error .unauthorized, .store store, some forwarded⟩
  | delivered {token : String} {forwarded answer : Octets} {multiplier amount : Int} {later : Store}
      (served : authorize query now (.store store) = .ok token)
      (planned : resolver.plan token query = .ok (.forward forwarded multiplier))
      (answered : recursor forwarded = some answer)
      (priced : price? forwarded answer multiplier = some amount)
      (debited : store.cost token amount now = .ok later) :
      Resolved resolver recursor query now store ⟨.ok answer, .store later, some forwarded⟩

theorem resolved (resolver : Resolver) (recursor : Recursor) (query : Query) (now : Instant)
    (store : Store) :
    resolver.Resolved recursor query now store
      (resolver.resolve recursor query now (.store store)) := by
  cases served : authorize query now (.store store) with
  | error error =>
      obtain rfl := authorize_eq_error served
      rw [resolve_of_denied resolver recursor served]
      exact .denied served
  | ok token =>
      cases planned : resolver.plan token query with
      | error error =>
          rw [resolve_of_failed resolver recursor served planned]
          exact .failed served planned
      | ok plan =>
          cases plan with
          | answer answer =>
              rw [resolve_of_own resolver recursor served planned]
              exact .own served planned
          | forward forwarded multiplier =>
              rw [resolve_of_forward resolver recursor served planned]
              cases answered : recursor forwarded with
              | none => exact .unanswered served planned answered
              | some answer =>
                  cases priced : price? forwarded answer multiplier with
                  | none =>
                      simp only [settle_of_unpriced priced]
                      exact .unpriced served planned answered priced
                  | some amount =>
                      cases debit : store.cost token amount now with
                      | error reason =>
                          simp only [settle_of_refused priced debit]
                          exact .withheld served planned answered priced debit
                      | ok later =>
                          simp only [settle_of_debited priced debit]
                          exact .delivered served planned answered priced debit

/-- Of all the recursor might answer, only its answer to the forwarded query matters. -/
theorem resolve_congr (agree : ∀ forwarded ∈ (resolver.resolve recursor query now ledger).forwarded,
      other forwarded = recursor forwarded) :
    resolver.resolve other query now ledger = resolver.resolve recursor query now ledger := by
  cases served : authorize query now ledger with
  | error error => rw [resolve_of_denied _ _ served, resolve_of_denied _ _ served]
  | ok token =>
      cases planned : resolver.plan token query with
      | error error =>
          rw [resolve_of_failed _ _ served planned, resolve_of_failed _ _ served planned]
      | ok plan =>
          cases plan with
          | answer answer =>
              rw [resolve_of_own _ _ served planned, resolve_of_own _ _ served planned]
          | forward forwarded multiplier =>
              have asked :
                  (resolver.resolve recursor query now ledger).forwarded = some forwarded := by
                rw [resolve_of_forward _ _ served planned]
                cases recursor forwarded <;> rfl
              rw [resolve_of_forward _ _ served planned, resolve_of_forward _ _ served planned,
                agree forwarded asked]

/-! ## What is forwarded -/

/-- What keeps a query from being forwarded. -/
inductive Unforwarded (resolver : Resolver) (query : Query) (now : Instant) (store : Store) :
    Prop where
  | tokenMissing (missing : query.token = none)
  | tokenEmpty (empty : query.token = some "")
  | inactive {token : String} (holder : query.token = some token)
      (inactive : (Ledger.store store).isActive token now = .ok false)
  | malformed (garbled : Message.ofWire? query.message = none)
  | noQuestion {message : Message} (parsed : Message.ofWire? query.message = some message)
      (nothing : message.questions = [])
  | discovery {message : Message} {question : Question} (asks : query.Asks message question)
      (isDiscovery : question.isDiscovery = true)
  | blocked {message : Message} {question : Question} (asks : query.Asks message question)
      (isBlocked : resolver.IsBlocked query question)

/-- A forwarded query passed every check before. -/
theorem exists_plan_of_forwarded
    (h : (resolver.resolve recursor query now (.store store)).forwarded = some forwarded) :
    ∃ token multiplier, authorize query now (.store store) = .ok token ∧
      resolver.plan token query = .ok (.forward forwarded multiplier) := by
  have ends := resolver.resolved recursor query now store
  generalize resolver.resolve recursor query now (.store store) = ending at ends h
  cases ends with
  | denied | failed | own => cases h
  | unanswered served planned | unpriced served planned | withheld served planned
  | delivered served planned =>
      obtain rfl := Option.some.inj h
      exact ⟨_, _, served, planned⟩

theorem forwarded_eq_none (stops : resolver.Unforwarded query now store) :
    (resolver.resolve recursor query now (.store store)).forwarded = none := by
  cases sent : (resolver.resolve recursor query now (.store store)).forwarded with
  | none => rfl
  | some forwarded =>
      exfalso
      obtain ⟨token, multiplier, served, planned⟩ := exists_plan_of_forwarded sent
      obtain ⟨holder, nonempty, active⟩ := authorize_eq_ok served
      obtain ⟨message, question, asks, notDiscovery, free, -, -⟩ := plan_eq_forward planned
      cases stops with
      | tokenMissing missing =>
          rw [missing] at holder
          cases holder
      | tokenEmpty empty =>
          rw [empty] at holder
          exact nonempty (Option.some.inj holder).symm
      | inactive otherHolder inactive =>
          obtain rfl := Option.some.inj (otherHolder.symm.trans holder)
          rw [active] at inactive
          cases inactive
      | malformed garbled =>
          have parsed := asks.parsed
          rw [garbled] at parsed
          cases parsed
      | noQuestion parsed nothing =>
          obtain rfl := Option.some.inj (parsed.symm.trans asks.parsed)
          have first := asks.first
          rw [nothing] at first
          cases first
      | discovery otherAsks isDiscovery =>
          obtain ⟨rfl, rfl⟩ := otherAsks.unique asks
          rw [notDiscovery] at isDiscovery
          cases isDiscovery
      | blocked otherAsks isBlocked =>
          obtain ⟨rfl, rfl⟩ := otherAsks.unique asks
          exact free isBlocked

/-! ## What is billed -/

/-- An answer of the recursor is delivered, and its query's token has been debited once, for the
octets of the forwarded query and of the answer. -/
inductive Billed (recursor : Recursor) (query : Query) (multiplier : Int) (now : Instant)
    (store : Store) : Resolution → Prop where
  | intro {token : String} {forwarded answer : Octets} {later : Store}
      (holder : query.token = some token) (answered : recursor forwarded = some answer)
      (positive : 0 < ((forwarded.length + answer.length : Nat) : Int) * multiplier)
      (debited : store.cost token ((forwarded.length + answer.length : Nat) * multiplier) now =
        .ok later) :
      Billed recursor query multiplier now store ⟨.ok answer, .store later, some forwarded⟩

/-- An error is reported or an answer of the gateway itself is delivered, and the tickets are as
they were. -/
inductive Unbilled (resolver : Resolver) (query : Query) (store : Store) : Resolution → Prop where
  | failed (error : ResolveError) (forwarded : Option Octets) :
      Unbilled resolver query store ⟨.error error, .store store, forwarded⟩
  | own {token : String} {answer : Message} {wire : Octets} (holder : query.token = some token)
      (own : resolver.OwnAnswer token query answer) (written : answer.toWire? = some wire) :
      Unbilled resolver query store ⟨.ok wire, .store store, none⟩

theorem Unbilled.ledger_eq {ending : Resolution} (h : resolver.Unbilled query store ending) :
    ending.ledger = .store store := by
  cases h with
  | failed | own => rfl

/-- A query is billed exactly. At most one query is forwarded: of all that the recursor might
answer, only its answer to that one matters. If the recursor's answer is delivered, then the token
has been debited once, for the octets of the forwarded query and of the answer, times the multiplier
of relayed queries if a relay names a client, in whatever form. Otherwise no ticket changes. Nothing
is forwarded without an active token, without a question, for discovery and for blocked names. -/
theorem resolve_bills_exactly (resolver : Resolver) (recursor : Recursor) (query : Query)
    (now : Instant) (store : Store) (multiplier_pos : 0 < resolver.relayMultiplier)
    (fits : ∀ forwarded answer,
      (resolver.resolve recursor query now (.store store)).forwarded = some forwarded →
      recursor forwarded = some answer →
        Text.fitsInt64 ((forwarded.length + answer.length : Nat) *
          if query.relayedFor.isSome then resolver.relayMultiplier else 1) = true) :
    (∀ other : Recursor,
      (∀ forwarded ∈ (resolver.resolve recursor query now (.store store)).forwarded,
        other forwarded = recursor forwarded) →
      resolver.resolve other query now (.store store) =
        resolver.resolve recursor query now (.store store)) ∧
    (Billed recursor query (if query.relayedFor.isSome then resolver.relayMultiplier else 1) now
        store (resolver.resolve recursor query now (.store store)) ∨
      resolver.Unbilled query store (resolver.resolve recursor query now (.store store))) ∧
    (resolver.Unforwarded query now store →
      (resolver.resolve recursor query now (.store store)).forwarded = none) := by
  refine ⟨fun other agree => resolve_congr agree, ?_, forwarded_eq_none⟩
  have ends := resolver.resolved recursor query now store
  generalize resolver.resolve recursor query now (.store store) = ending at ends fits
  cases ends with
  | denied | failed | unanswered | unpriced | withheld => exact Or.inr (.failed _ _)
  | own served planned =>
      obtain ⟨holder, -, -⟩ := authorize_eq_ok served
      obtain ⟨answer, own, written⟩ := plan_eq_answer planned
      exact Or.inr (.own holder own written)
  | @delivered token forwarded answer multiplier amount later served planned answered priced
      debited =>
      obtain ⟨holder, -, -⟩ := authorize_eq_ok served
      rw [price?_of_fits planned (fits forwarded answer rfl answered)] at priced
      obtain rfl := Option.some.inj priced
      exact Or.inl (.intro holder answered (amount_pos multiplier_pos planned answer) debited)

/-- A resolver that blocks nothing and bills relayed queries a hundredfold. -/
def plainResolver : Resolver := ⟨Blocklist.empty, 100, .scripts⟩

/-- A query for the addresses of `x`, from a relay that does not name the client in any form that
can be read. -/
def relayedQuery : Query where
  token := some "a"
  source := .path
  message := [0, 99, 1, 0, 0, 1, 0, 0, 0, 0, 0, 0, 1, 120, 0, 0, 1, 0, 1]
  peer := .v4 0x0A000001
  relayedFor := some "nowhere"
  blockAds := false

def fiveBytes : Store := Store.empty.run [.create ⟨"a", 5, "first", ""⟩ 0]

/-- The last bytes of a token pay for an answer to a relayed query, at the price of relayed
queries. -/
theorem billed_for_relayed_query :
    0 < plainResolver.relayMultiplier ∧
    Billed (fun _ => some [1, 2, 3]) relayedQuery 100 2 fiveBytes
      (plainResolver.resolve (fun _ => some [1, 2, 3]) relayedQuery 2 (.store fiveBytes)) := by
  have positive : 0 < plainResolver.relayMultiplier := by decide
  have sent : (plainResolver.resolve (fun _ => some [1, 2, 3]) relayedQuery 2
      (.store fiveBytes)).forwarded.map (·.length) = some 41 := by decide +kernel
  have charged : (plainResolver.resolve (fun _ => some [1, 2, 3]) relayedQuery 2
      (.store fiveBytes)).ledger ≠ .store fiveBytes := by decide +kernel
  have bills := resolve_bills_exactly plainResolver (fun _ => some [1, 2, 3]) relayedQuery 2
    fiveBytes positive (by
      intro forwarded answer isSent answered
      rw [isSent] at sent
      obtain rfl := Option.some.inj answered
      have octets : forwarded.length = 41 := Option.some.inj sent
      rw [octets]
      decide)
  exact ⟨positive, bills.2.1.resolve_right fun unbilled => charged unbilled.ledger_eq⟩

end Tollgate.Dns.Resolver
