import Tollgate.Dns.Resolver
import Tollgate.Proofs.Ledger.Authorization

/-!
# Plans and prices

What the gateway makes of a query is settled before anything is sent or debited. `Resolver.Planned`
says once what that can be, with the checks that led there, and later proofs take a plan apart by
its cases. A query that is to be forwarded is never free, since its header alone has octets.

The check of a token and the debit are the two places where a query meets the ledger. A ticket store
always answers the check, so only `unauthorized` comes of it.
-/

namespace Tollgate.Dns

theorem Message.header_le_length {message : Message} {wire : Octets}
    (written : message.toWire? = some wire) : Header.length ≤ wire.length := by
  simp only [Message.toWire?, Option.bind_eq_bind, Option.bind_eq_some_iff, Option.pure_def,
    Option.some.injEq] at written
  obtain ⟨questions, -, rfl⟩ := written
  simp only [List.append_assoc, List.length_append, List.map_cons, List.flatten_cons,
    Octets.length_ofNat, Header.length]
  omega

/-- A price is the whole product, or there is none. -/
theorem price?_eq_some_iff {query answer : Octets} {multiplier amount : Int} :
    price? query answer multiplier = some amount ↔
      amount = (query.length + answer.length : Nat) * multiplier ∧
        Text.fitsInt64 amount = true := by
  rw [price?, Option.ite_none_right_eq_some, Option.some.injEq]
  constructor
  · rintro ⟨fits, rfl⟩
    exact ⟨rfl, fits⟩
  · rintro ⟨rfl, fits⟩
    exact ⟨fits, rfl⟩

/-- The message that a query carries, and what it asks first. -/
structure Query.Asks (query : Query) (message : Message) (question : Question) : Prop where
  parsed : Message.ofWire? query.message = some message
  first : message.questions.head? = some question

theorem Query.Asks.unique {query : Query} {message other : Message}
    {question otherQuestion : Question} (h : query.Asks message question)
    (h' : query.Asks other otherQuestion) : message = other ∧ question = otherQuestion := by
  obtain rfl : message = other := Option.some.inj (h.parsed.symm.trans h'.parsed)
  exact ⟨rfl, Option.some.inj (h.first.symm.trans h'.first)⟩

namespace Resolver

variable {resolver : Resolver} {query : Query} {now : Instant} {token : String}
variable {store later : Store} {forwarded answer : Octets} {multiplier amount : Int}
variable {error : ResolveError}

/-! ## Plans -/

/-- Whether a question is for a name that its query wants blocked. -/
def IsBlocked (resolver : Resolver) (query : Query) (question : Question) : Prop :=
  query.blockAds = true ∧ resolver.blocklist.blocks (question.name.text resolver.idna) = true

/-- What the gateway answers by itself: discovery queries, and blocked names. -/
inductive OwnAnswer (resolver : Resolver) (token : String) (query : Query) : Message → Prop where
  | discovery {message answer : Message} {question : Question} (asks : query.Asks message question)
      (isDiscovery : question.isDiscovery = true)
      (found : Discovery.answer? resolver.idna message question token query.source = some answer) :
      OwnAnswer resolver token query answer
  | blocked {message : Message} {question : Question} (asks : query.Asks message question)
      (notDiscovery : question.isDiscovery = false)
      (isBlocked : resolver.IsBlocked query question) :
      OwnAnswer resolver token query
        (Message.answerTo message question ResponseCode.noSuchName true)

/-- What the gateway makes of a query that it serves. -/
inductive Planned (resolver : Resolver) (token : String) (query : Query) :
    Except ResolveError Plan → Prop where
  | malformed (garbled : Message.ofWire? query.message = none) :
      Planned resolver token query (.error .malformed)
  | noQuestion {message : Message} (parsed : Message.ofWire? query.message = some message)
      (nothing : message.questions = []) : Planned resolver token query (.error .noQuestion)
  | undiscovered {message : Message} {question : Question} (asks : query.Asks message question)
      (isDiscovery : question.isDiscovery = true)
      (missing : Discovery.answer? resolver.idna message question token query.source = none) :
      Planned resolver token query (.error .discoveryFailed)
  | ownUnwritten {answer : Message} (own : resolver.OwnAnswer token query answer)
      (unwritten : answer.toWire? = none) : Planned resolver token query (.error .encodingFailed)
  | own {answer : Message} {wire : Octets} (own : resolver.OwnAnswer token query answer)
      (written : answer.toWire? = some wire) : Planned resolver token query (.ok (.answer wire))
  | unwritten {message : Message} {question : Question} (asks : query.Asks message question)
      (notDiscovery : question.isDiscovery = false) (free : ¬ resolver.IsBlocked query question)
      (unwritten : (message.forClient (clientOf query)).toWire? = none) :
      Planned resolver token query (.error .encodingFailed)
  | forward {message : Message} {question : Question} {forwarded : Octets}
      (asks : query.Asks message question)
      (notDiscovery : question.isDiscovery = false) (free : ¬ resolver.IsBlocked query question)
      (written : (message.forClient (clientOf query)).toWire? = some forwarded) :
      Planned resolver token query (.ok (.forward forwarded (resolver.multiplierOf query)))

theorem planned (resolver : Resolver) (token : String) (query : Query) :
    resolver.Planned token query (resolver.plan token query) := by
  unfold plan
  cases parsed : Message.ofWire? query.message with
  | none => exact .malformed parsed
  | some message =>
      simp only [orElse, bind, Except.bind, pure, Except.pure]
      cases first : message.questions.head? with
      | none => exact .noQuestion parsed (List.head?_eq_none_iff.mp first)
      | some question =>
          have asks : query.Asks message question := ⟨parsed, first⟩
          simp only
          cases isDiscovery : question.isDiscovery with
          | true =>
              rw [if_pos rfl]
              cases found : Discovery.answer? resolver.idna message question token query.source with
              | none => exact .undiscovered asks isDiscovery found
              | some answer =>
                  have own : resolver.OwnAnswer token query answer :=
                    .discovery asks isDiscovery found
                  simp only
                  cases written : answer.toWire? with
                  | none => exact .ownUnwritten own written
                  | some wire => exact .own own written
          | false =>
              rw [if_neg (by decide)]
              by_cases isBlocked : resolver.IsBlocked query question
              · have blocks :
                    (query.blockAds &&
                      resolver.blocklist.blocks (question.name.text resolver.idna)) = true :=
                  Bool.and_eq_true_iff.mpr isBlocked
                have own : resolver.OwnAnswer token query
                    (Message.answerTo message question ResponseCode.noSuchName true) :=
                  .blocked asks isDiscovery isBlocked
                rw [if_pos blocks]
                cases written :
                    (Message.answerTo message question ResponseCode.noSuchName true).toWire? with
                | none => exact .ownUnwritten own written
                | some wire => exact .own own written
              · have passes :
                    ¬ (query.blockAds &&
                      resolver.blocklist.blocks (question.name.text resolver.idna)) = true :=
                  fun blocks => isBlocked (Bool.and_eq_true_iff.mp blocks)
                rw [if_neg passes]
                cases written : (message.forClient (clientOf query)).toWire? with
                | none => exact .unwritten asks isDiscovery isBlocked written
                | some wire => exact .forward asks isDiscovery isBlocked written

/-- A query is only planned to be forwarded if the gateway has no answer of its own. -/
theorem plan_eq_forward (h : resolver.plan token query = .ok (.forward forwarded multiplier)) :
    ∃ message question, query.Asks message question ∧ question.isDiscovery = false ∧
      ¬ resolver.IsBlocked query question ∧
      (message.forClient (clientOf query)).toWire? = some forwarded ∧
      multiplier = resolver.multiplierOf query := by
  have plans := resolver.planned token query
  rw [h] at plans
  cases plans with
  | forward asks notDiscovery free written => exact ⟨_, _, asks, notDiscovery, free, written, rfl⟩

/-- An answer that needs no help is one of the gateway's own. -/
theorem plan_eq_answer (h : resolver.plan token query = .ok (.answer answer)) :
    ∃ own, resolver.OwnAnswer token query own ∧ own.toWire? = some answer := by
  have plans := resolver.planned token query
  rw [h] at plans
  cases plans with
  | own own written => exact ⟨_, own, written⟩

/-! ## Prices -/

/-- The price of an answered query is its multiplier for every octet. -/
theorem price?_of_fits (planned : resolver.plan token query = .ok (.forward forwarded multiplier))
    (fits : Text.fitsInt64
      ((forwarded.length + answer.length : Nat) * resolver.multiplierOf query) = true) :
    price? forwarded answer multiplier =
      some ((forwarded.length + answer.length : Nat) * resolver.multiplierOf query) := by
  obtain ⟨-, -, -, -, -, -, rfl⟩ := plan_eq_forward planned
  exact price?_eq_some_iff.mpr ⟨rfl, fits⟩

theorem multiplierOf_pos (positive : 0 < resolver.relayMultiplier) (query : Query) :
    0 < resolver.multiplierOf query := by
  unfold multiplierOf
  split
  · exact positive
  · decide

/-- What is forwarded is never free: it has a header at least. -/
theorem amount_pos (positive : 0 < resolver.relayMultiplier)
    (planned : resolver.plan token query = .ok (.forward forwarded multiplier)) (answer : Octets) :
    0 < ((forwarded.length + answer.length : Nat) : Int) * resolver.multiplierOf query := by
  obtain ⟨message, question, -, -, -, written, -⟩ := plan_eq_forward planned
  have header := Message.header_le_length written
  have octets : (0 : Int) < (forwarded.length + answer.length : Nat) := by
    rw [Header.length] at header
    omega
  exact Int.mul_pos octets (multiplierOf_pos positive query)

/-! ## Authorization and debit -/

theorem authorize_of_missing (missing : query.token = none) :
    authorize query now (.store store) = .error .unauthorized := by
  simp only [authorize, missing]

/-- A ticket store always knows whether it serves a token. -/
theorem authorize_of_holder (holder : query.token = some token) :
    authorize query now (.store store) =
      if token ≠ "" ∧ (Ledger.store store).isActive token now = .ok true then .ok token
      else .error .unauthorized := by
  simp only [authorize, holder, Ledger.isActive_store, String.isEmpty_iff]
  by_cases empty : token = ""
  · simp [empty]
  · cases (store.newest? token).any fun ticket => 0 < ticket.bytes <;> simp [empty]

theorem authorize_eq_ok (h : authorize query now (.store store) = .ok token) :
    query.token = some token ∧ token ≠ "" ∧
      (Ledger.store store).isActive token now = .ok true := by
  cases holder : query.token with
  | none =>
      rw [authorize_of_missing holder] at h
      cases h
  | some other =>
      rw [authorize_of_holder holder] at h
      split at h
      next served =>
        obtain rfl := Except.ok.inj h
        exact ⟨rfl, served⟩
      next => cases h

theorem authorize_eq_error (h : authorize query now (.store store) = .error error) :
    error = .unauthorized := by
  cases holder : query.token with
  | none =>
      rw [authorize_of_missing holder] at h
      exact (Except.error.inj h).symm
  | some other =>
      rw [authorize_of_holder holder] at h
      split at h
      next => cases h
      next => exact (Except.error.inj h).symm

theorem settle_of_debited (priced : price? forwarded answer multiplier = some amount)
    (debited : store.cost token amount now = .ok later) :
    settle token forwarded answer multiplier now (.store store) = (.ok answer, .store later) := by
  simp [settle, Ledger.cost, priced, debited, Except.map]

theorem settle_of_refused {reason : LedgerError}
    (priced : price? forwarded answer multiplier = some amount)
    (refused : store.cost token amount now = .error reason) :
    settle token forwarded answer multiplier now (.store store) =
      (.error .unauthorized, .store store) := by
  simp [settle, Ledger.cost, priced, refused, Except.map]

theorem settle_of_unpriced {ledger : Ledger}
    (unpriced : price? forwarded answer multiplier = none) :
    settle token forwarded answer multiplier now ledger = (.error .priceOutOfRange, ledger) := by
  simp only [settle, unpriced]

end Resolver

end Tollgate.Dns
