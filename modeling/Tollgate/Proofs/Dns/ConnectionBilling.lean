import Tollgate.Proofs.Dns.ConnectionCourse
import Tollgate.Proofs.Ledger.Conservation

/-!
# What a connection is billed

A message is debited when it is resolved, and only then does its answer have to fit a frame. So the
debits of a connection are those of the resolutions that it attends to, and these are one more than
the answers that it has written: the one that it fails with. Mostly that one costs nothing. Only an
answer of the recursor that is too long for a frame has been debited and is not written.
-/

namespace Tollgate

/-- A debit that goes through takes its amount, if that is positive. -/
theorem Store.balance_of_cost_max {token owner : String} {amount : Int} {now : Instant}
    {store later : Store} (debited : store.cost token amount now = .ok later) :
    store.balance owner - later.balance owner = if token = owner then max 0 amount else 0 := by
  by_cases positive : 0 < amount
  · rw [Store.balance_of_cost positive debited owner]
    split <;> omega
  · rw [Store.cost, if_pos (Int.not_lt.mp positive)] at debited
    obtain rfl := Except.ok.inj debited
    split <;> omega

namespace Dns

/-- The octets of a forwarded query and of the recursor's answer to it, if that is delivered. -/
def Resolution.octets (resolution : Resolution) : Nat :=
  match resolution.forwarded, resolution.result with
  | some query, .ok answer => query.length + answer.length
  | _, _ => 0

/-- Whatever the recursor answers, what is forwarded is no longer than a message, and neither is an
answer of the gateway itself. -/
structure Resolution.Sized (resolution : Resolution) : Prop where
  forwarded_le : ∀ forwarded, resolution.forwarded = some forwarded →
    forwarded.length ≤ maxMessageLength
  own_le : resolution.forwarded = none → ∀ answer, resolution.result = .ok answer →
    answer.length ≤ maxMessageLength

namespace Resolver

variable {resolver : Resolver} {recursor : Recursor} {query : Query} {now : Instant}
variable {store : Store} {token owner : String} {forwarded answer : Octets} {ledger : Ledger}

theorem multiplierOf_eq_one (unrelayed : query.relayedFor = none) :
    resolver.multiplierOf query = 1 := by
  rw [multiplierOf, unrelayed]
  rfl

theorem length_forwarded_le {multiplier : Int}
    (planned : resolver.plan token query = .ok (.forward forwarded multiplier)) :
    forwarded.length ≤ maxMessageLength := by
  obtain ⟨message, question, -, -, -, written, -⟩ := plan_eq_forward planned
  exact Message.length_toWire?_le written

/-- A query is debited for its octets, and before anything else is done with its answer. -/
theorem resolve_charges (resolver : Resolver) (recursor : Recursor) (now : Instant) (store : Store)
    (unrelayed : query.relayedFor = none) {ending : Resolution}
    (ends : resolver.resolve recursor query now (.store store) = ending) :
    ∃ later, ending.ledger = .store later ∧ ∀ owner,
      store.balance owner - later.balance owner =
        if query.token = some owner then (ending.octets : Int) else 0 := by
  have cases_of := resolver.resolved recursor query now store
  rw [ends] at cases_of
  cases cases_of with
  | denied | failed | unanswered | unpriced | withheld | own =>
      refine ⟨store, rfl, ?_⟩
      intro owner
      simp [Resolution.octets]
  | @delivered token forwarded answer multiplier amount later served planned answered priced
      debited =>
      obtain ⟨holder, -, -⟩ := authorize_eq_ok served
      obtain ⟨-, -, -, -, -, -, rfl⟩ := plan_eq_forward planned
      obtain ⟨rfl, -⟩ := price?_eq_some_iff.mp priced
      refine ⟨later, rfl, ?_⟩
      intro owner
      rw [Store.balance_of_cost_max debited, multiplierOf_eq_one unrelayed, mul_one, holder,
        max_eq_right (Int.natCast_nonneg _)]
      simp [Resolution.octets]

theorem resolve_of_debited (recursor : Recursor) {multiplier amount : Int} {later : Store}
    (served : authorize query now (.store store) = .ok token)
    (planned : resolver.plan token query = .ok (.forward forwarded multiplier))
    (answered : recursor forwarded = some answer)
    (priced : price? forwarded answer multiplier = some amount)
    (debited : store.cost token amount now = .ok later) :
    resolver.resolve recursor query now (.store store) =
      ⟨.ok answer, .store later, some forwarded⟩ := by
  rw [resolve_of_forward _ _ served planned, answered]
  simp only [settle_of_debited priced debited]

theorem sized_resolve (resolver : Resolver) (recursor : Recursor) (query : Query) (now : Instant)
    (ledger : Ledger) : (resolver.resolve recursor query now ledger).Sized := by
  cases served : authorize query now ledger with
  | error error =>
      rw [resolve_of_denied _ _ served]
      exact ⟨by simp, by simp⟩
  | ok token =>
      cases planned : resolver.plan token query with
      | error error =>
          rw [resolve_of_failed _ _ served planned]
          exact ⟨by simp, by simp⟩
      | ok plan =>
          cases plan with
          | answer own =>
              obtain ⟨message, -, written⟩ := plan_eq_answer planned
              rw [resolve_of_own _ _ served planned]
              exact ⟨by simp, by simpa using Message.length_toWire?_le written⟩
          | forward forwarded multiplier =>
              have short := length_forwarded_le planned
              rw [resolve_of_forward _ _ served planned]
              cases recursor forwarded with
              | none => exact ⟨by simpa using short, by simp⟩
              | some answer => exact ⟨by simpa using short, by simp⟩

theorem sized_of_mem_resolveAll {query : Octets → Query} {messages : List (Moment × Octets)}
    {resolution : Resolution} (mem : resolution ∈ resolver.resolveAll query messages ledger) :
    resolution.Sized := by
  induction messages generalizing ledger with
  | nil => cases mem
  | cons first later ih =>
      rcases List.mem_cons.mp mem with rfl | mem
      · exact resolver.sized_resolve _ _ _ _
      · exact ih mem

/-- The debits of queries add up. -/
theorem resolveAll_charges (resolver : Resolver) (query : Octets → Query) {token : Option String}
    (unrelayed : ∀ message, (query message).relayedFor = none)
    (holder : ∀ message, (query message).token = token) (messages : List (Moment × Octets))
    (store : Store) :
    ∃ later, Dot.ledgerAfter (.store store) (resolver.resolveAll query messages (.store store)) =
        .store later ∧ ∀ owner,
      store.balance owner - later.balance owner =
        if token = some owner then
          ((resolver.resolveAll query messages (.store store)).map
            fun resolution => (resolution.octets : Int)).sum
        else 0 := by
  induction messages generalizing store with
  | nil => exact ⟨store, rfl, by simp [resolveAll]⟩
  | cons first rest ih =>
      obtain ⟨moment, message⟩ := first
      obtain ⟨middle, middle_eq, first_charge⟩ := resolver.resolve_charges moment.recursor
        moment.now store (unrelayed message) rfl
      obtain ⟨later, later_eq, rest_charges⟩ := ih middle
      rw [resolveAll, Dot.ledgerAfter_cons, middle_eq]
      refine ⟨later, later_eq, ?_⟩
      intro owner
      have first_charge := first_charge owner
      have rest_charges := rest_charges owner
      rw [holder] at first_charge
      rw [List.map_cons, List.sum_cons]
      split at first_charge
      next own =>
          rw [if_pos own] at rest_charges ⊢
          omega
      next other =>
          rw [if_neg other] at rest_charges ⊢
          omega

end Resolver

namespace Dot

variable {resolutions : List Resolution} {resolution : Resolution} {failure : Failure}

/-- A query that gets no answer costs nothing. -/
theorem octets_of_failed (fails : FailsWith resolution failure)
    (fits : ∀ length, failure ≠ .messageTooLarge length) : resolution.octets = 0 := by
  cases fails with
  | rejected refused =>
      rw [Resolution.octets, refused]
      cases resolution.forwarded with
      | none => rfl
      | some forwarded => rfl
  | messageTooLarge answered long => exact absurd rfl (fits _)

/-- An answer that is too long for a frame is the recursor's. -/
theorem octets_of_tooLarge {length : Nat} (sized : resolution.Sized)
    (tooLarge : FailsWith resolution (.messageTooLarge length)) :
    ∃ forwarded, resolution.forwarded = some forwarded ∧
      resolution.octets = forwarded.length + length := by
  cases tooLarge with
  | messageTooLarge answered long =>
      cases sent : resolution.forwarded with
      | none => exact absurd (sized.own_le sent _ answered) (Nat.not_le.mpr long)
      | some forwarded => exact ⟨forwarded, rfl, by rw [Resolution.octets, sent, answered]⟩

/-- What is attended to costs what is delivered, unless an answer is too long for a frame. -/
theorem sum_octets_attended
    (fits : ∀ length, firstFailure? resolutions ≠ some (.messageTooLarge length)) :
    ((attended resolutions).map fun resolution => (resolution.octets : Int)).sum =
      ((delivered resolutions).map fun resolution => (resolution.octets : Int)).sum := by
  cases failed : firstFailure? resolutions with
  | none => rw [attended_eq_self failed, delivered_eq_self failed]
  | some failure =>
      obtain ⟨resolution, mem, fails, attended_eq⟩ := exists_attended_eq failed
      have free : resolution.octets = 0 := octets_of_failed (failure?_eq_some_iff.mp fails)
        fun length tooLarge => fits length (tooLarge ▸ failed)
      rw [attended_eq, List.map_append, List.sum_append, List.map_singleton, List.sum_singleton,
        free, Nat.cast_zero, add_zero]

/-- An answer that is too long for a frame costs its octets and those of its query, which is the
last that was forwarded. -/
theorem sum_octets_attended_of_tooLarge {length : Nat}
    (sized : ∀ resolution ∈ resolutions, resolution.Sized)
    (tooLarge : firstFailure? resolutions = some (.messageTooLarge length)) :
    ∃ forwarded, ((attended resolutions).filterMap (·.forwarded)).getLast? = some forwarded ∧
      ((attended resolutions).map fun resolution => (resolution.octets : Int)).sum =
        ((delivered resolutions).map fun resolution => (resolution.octets : Int)).sum +
          (forwarded.length + length : Nat) := by
  obtain ⟨resolution, mem, fails, attended_eq⟩ := exists_attended_eq tooLarge
  obtain ⟨forwarded, sent, octets⟩ :=
    octets_of_tooLarge (sized resolution mem) (failure?_eq_some_iff.mp fails)
  refine ⟨forwarded, ?_, ?_⟩
  · rw [attended_eq, List.filterMap_append]
    simp [sent]
  · rw [attended_eq, List.map_append, List.sum_append, List.map_singleton, List.sum_singleton,
      octets]

/-- What is attended to is what the first messages come to, so its debits add up too. -/
theorem attended_charges (resolver : Resolver) (query : Octets → Query) {token : Option String}
    (unrelayed : ∀ message, (query message).relayedFor = none)
    (holder : ∀ message, (query message).token = token) (messages : List (Moment × Octets))
    (store : Store) :
    let resolutions := resolver.resolveAll query messages (.store store)
    ∃ later, ledgerAfter (.store store) (attended resolutions) = .store later ∧ ∀ owner,
      store.balance owner - later.balance owner =
        if token = some owner then
          ((attended resolutions).map fun resolution => (resolution.octets : Int)).sum
        else 0 := by
  intro resolutions
  have first_messages : attended resolutions =
      resolver.resolveAll query (messages.take (attended resolutions).length) (.store store) := by
    rw [Resolver.resolveAll_take]
    exact List.prefix_iff_eq_take.mp (attended_isPrefix resolutions)
  rw [first_messages]
  exact resolver.resolveAll_charges query unrelayed holder _ store

namespace Connection

/-- A connection of a host's token whose client takes its answers debits its token, and no other,
for the answers that it has written, except that an answer too long for a frame, which ends the
connection unwritten, has been debited as well. That holds also if messages come too late. -/
theorem debits_answers (resolver : Resolver) (token : Option String) (peer : Address)
    (events : List Event) (store : Store) (stays : .leaves ∉ events) :
    let query : Octets → Query := fun message => ⟨token, .host, message, peer, none, false⟩
    let resolutions := resolver.resolveAll query (asked [] (inTime [] 0 events)) (.store store)
    let paid := ((delivered resolutions).map fun resolution => (resolution.octets : Int)).sum
    let service := run resolver { token, peer } events (.store store)
    service.written = (answers resolutions).flatMap framed ∧
      ∃ later, service.ledger = .store later ∧
        (∀ other, token ≠ some other → later.balance other = store.balance other) ∧
        ∀ holder, token = some holder →
          ((∀ length, service.connection.failure ≠ some (.messageTooLarge length)) →
            store.balance holder - later.balance holder = paid) ∧
          ∀ length, service.connection.failure = some (.messageTooLarge length) →
            ∃ forwarded, service.forwarded.getLast? = some forwarded ∧
              store.balance holder - later.balance holder =
                paid + (forwarded.length + length : Nat) := by
  intro query resolutions paid service
  have renders : service.Renders resolutions { token, peer } (.store store) :=
    run_renders resolver { token, peer } .empty rfl rfl events stays (.store store)
  have sized : ∀ resolution ∈ resolutions, resolution.Sized := by
    intro resolution mem
    exact Resolver.sized_of_mem_resolveAll mem
  obtain ⟨later, later_eq, charges⟩ := attended_charges resolver query (fun _ => rfl)
    (fun _ => rfl) (asked [] (inTime [] 0 events)) store
  refine ⟨renders.written_eq, later, renders.ledger_eq.trans later_eq, ?_, ?_⟩
  · intro other notHolder
    have nothing := charges other
    rw [if_neg notHolder] at nothing
    omega
  · intro holder isHolder
    have debited := charges holder
    rw [if_pos isHolder] at debited
    rw [renders.failure_eq, renders.forwarded_eq, debited]
    exact ⟨sum_octets_attended, fun _ => sum_octets_attended_of_tooLarge sized⟩

open Resolver (plainResolver relayedQuery fiveBytes)

/-- A connection of the token that has five bytes left. -/
def lastBytes : Connection where
  token := some "a"
  peer := relayedQuery.peer

/-- The length of an answer that fits no frame. -/
def overlong? : Failure → Option Nat
  | .messageTooLarge length => some length
  | _ => none

/-- The one answer that is written is what is paid for: 41 octets of the query, and three more. -/
theorem last_bytes_pay_one_answer :
    let service := lastBytes.run plainResolver askedSlowly (.store fiveBytes)
    .leaves ∉ askedSlowly ∧ service.written = framed [1, 2, 3] ∧
      ∃ later, service.ledger = .store later ∧ fiveBytes.balance "a" - later.balance "a" = 44 := by
  intro service
  have stays : .leaves ∉ askedSlowly := by simp [askedSlowly]
  have fits : service.connection.failure.bind overlong? = none := by decide +kernel
  have written : service.written = framed [1, 2, 3] := by decide +kernel
  obtain ⟨-, later, ledger_eq, -, debits⟩ :=
    debits_answers plainResolver (some "a") relayedQuery.peer askedSlowly fiveBytes stays
  refine ⟨stays, written, later, ledger_eq, ?_⟩
  rw [(debits "a" rfl).1]
  · decide +kernel
  · intro length tooLarge
    have failed : service.connection.failure = some (.messageTooLarge length) := tooLarge
    rw [failed] at fits
    cases fits

/-- An answer of one octet more than a frame can hold is debited with its query, and nothing is
written. -/
theorem long_answer_debited_unwritten :
    let arrivals := [(⟨2, fun _ => some (List.replicate 65536 0)⟩, framed relayedQuery.message)]
    (lastBytes.receiveAll plainResolver arrivals (.store fiveBytes)).written = [] ∧
      ∃ later, (lastBytes.receiveAll plainResolver arrivals (.store fiveBytes)).ledger =
          .store later ∧
        fiveBytes.balance "a" - later.balance "a" = 65577 := by
  intro arrivals
  have length : ((plainResolver.resolve (fun _ => none) (lastBytes.query relayedQuery.message) 2
      (.store fiveBytes)).forwarded).map (·.length) = some 41 := by decide +kernel
  obtain ⟨forwarded, sent, length⟩ := Option.map_eq_some_iff.mp length
  obtain ⟨token, multiplier, served, planned⟩ := Resolver.exists_plan_of_forwarded sent
  obtain rfl : "a" = token := Option.some.inj (Resolver.authorize_eq_ok served).1
  obtain ⟨-, -, -, -, -, -, rfl⟩ := Resolver.plan_eq_forward planned
  have priced : price? forwarded (List.replicate 65536 0)
      (plainResolver.multiplierOf (lastBytes.query relayedQuery.message)) = some 65577 := by
    rw [price?, length, List.length_replicate]
    decide
  have debit : ((fiveBytes.cost "a" 65577 2).toOption.map (·.balance "a")) = some (5 - 65577) := by
    decide +kernel
  cases debited : fiveBytes.cost "a" 65577 2 with
  | error error =>
      rw [debited] at debit
      cases debit
  | ok later =>
      rw [debited] at debit
      have resolved := Resolver.resolve_of_debited (fun _ => some (List.replicate 65536 0)) served
        planned rfl priced debited
      have tooLarge := failure?_eq_some_iff.mpr (.messageTooLarge
        (congrArg Resolution.result resolved) (by rw [List.length_replicate]; decide))
      have whole : takeFrame? (lastBytes.unread ++ framed relayedQuery.message) =
          some (relayedQuery.message, []) := by decide +kernel
      have received : lastBytes.receive plainResolver (fun _ => some (List.replicate 65536 0)) 2
          (framed relayedQuery.message) (.store fiveBytes) = _ :=
        (receive_of_open rfl _).trans (serve_of_failed whole tooLarge)
      rw [receiveAll_cons received, resolved]
      refine ⟨rfl, later, rfl, ?_⟩
      have after : later.balance "a" = 5 - 65577 := Option.some.inj debit
      have before : fiveBytes.balance "a" = 5 := by decide +kernel
      omega

end Connection

end Dot

end Dns

end Tollgate
