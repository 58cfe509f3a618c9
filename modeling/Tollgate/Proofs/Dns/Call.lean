import Tollgate.Proofs.Dns.Resolution
import Tollgate.Proofs.Ledger.Conservation

/-!
# A call in turns

A call is interrupted only where it waits: for the ledger to check its token, for the recursor to
answer, and for the ledger to debit its token. `Call.next` is what happens between two such places,
and `Call.Moves` says once what it can do. A call that takes its turns without interruption ends as
`Resolver.resolve` does.

What the store loses in a turn is what the bill of the call gains. This needs to know of the call
only that it does what was planned for its query, which every turn keeps up.
-/

namespace Tollgate.Dns

open Resolver (authorize)

/-- How far a call has come. -/
inductive Stage where
  /-- The token has not been checked. -/
  | arrived
  /-- The token is active, and the query is to be sent to the recursor. -/
  | admitted (token : String) (forwarded : Octets) (multiplier : Int)
  /-- The recursor has answered, and the token is to be debited. -/
  | answered (token : String) (forwarded answer : Octets) (multiplier : Int)
  /-- The call has returned an error. -/
  | failed (error : ResolveError)
  /-- The call has returned an answer of the gateway itself. -/
  | own (answer : Octets)
  /-- The call has returned the answer of the recursor to what was forwarded. -/
  | delivered (forwarded answer : Octets)
  deriving DecidableEq, Repr

def Stage.result? : Stage → Option (Except ResolveError Octets)
  | .failed error => some (.error error)
  | .own answer | .delivered _ answer => some (.ok answer)
  | .arrived | .admitted .. | .answered .. => none

/-- What a call has had forwarded, and the recursor's answer to it. -/
def Stage.exchanged? : Stage → Option (Octets × Octets)
  | .answered _ forwarded answer _ | .delivered forwarded answer => some (forwarded, answer)
  | .arrived | .admitted .. | .failed _ | .own _ => none

/-- The octets that a call has had forwarded and answered. -/
def Stage.octets : Stage → Nat
  | .answered _ forwarded answer _ | .delivered forwarded answer => forwarded.length + answer.length
  | .arrived | .admitted .. | .failed _ | .own _ => 0

/-- A call of the resolver for a query. -/
structure Call where
  resolver : Resolver
  query : Query
  stage : Stage

/-- What happens to a call in one turn. -/
inductive Turn where
  /-- The ledger checks the token. -/
  | check (now : Instant)
  /-- The recursor answers or fails. -/
  | exchange (reply : Option Octets)
  /-- The ledger debits the token. -/
  | charge (now : Instant)
  deriving DecidableEq, Repr

namespace Call

/-- Where the check of its token takes a call. -/
def admission (call : Call) (now : Instant) (store : Store) : Stage :=
  match authorize call.query now (.store store) with
  | .error error => .failed error
  | .ok token =>
    match call.resolver.plan token call.query with
    | .error error => .failed error
    | .ok (.answer answer) => .own answer
    | .ok (.forward forwarded multiplier) => .admitted token forwarded multiplier

/-- One turn of a call. A turn that the call does not wait for changes nothing. -/
def next (call : Call) (turn : Turn) (store : Store) : Stage × Store :=
  match call.stage, turn with
  | .arrived, .check now => (call.admission now store, store)
  | .admitted _ _ _, .exchange none => (.failed .exchangeFailed, store)
  | .admitted token forwarded multiplier, .exchange (some answer) =>
    (.answered token forwarded answer multiplier, store)
  | .answered token forwarded answer multiplier, .charge now =>
    match price? forwarded answer multiplier with
    | none => (.failed .priceOutOfRange, store)
    | some amount =>
      match store.cost token amount now with
      | .ok later => (.delivered forwarded answer, later)
      | .error _ => (.failed .unauthorized, store)
  | stage, _ => (stage, store)

def withStage (call : Call) (stage : Stage) : Call := { call with stage }

/-- A call that takes turns without interruption. -/
def through (call : Call) : List Turn → Store → Stage × Store
  | [], store => (call.stage, store)
  | turn :: rest, store =>
    (call.withStage (call.next turn store).1).through rest (call.next turn store).2

/-- The price of the octets of a call. -/
def amount (call : Call) : Int := call.stage.octets * call.resolver.multiplierOf call.query

/-- What a token owes for the recursor's answer that a call has delivered. -/
def billed (owner : String) (call : Call) : Int :=
  match call.stage with
  | .delivered .. => if call.query.token = some owner then call.amount else 0
  | _ => 0

end Call

/-! ## One turn -/

namespace Call

variable {call : Call} {store : Store} {owner : String}

@[simp] theorem withStage_resolver (call : Call) (stage : Stage) :
    (call.withStage stage).resolver = call.resolver := rfl

@[simp] theorem withStage_query (call : Call) (stage : Stage) :
    (call.withStage stage).query = call.query := rfl

@[simp] theorem withStage_stage (call : Call) (stage : Stage) :
    (call.withStage stage).stage = stage := rfl

@[simp] theorem withStage_self (call : Call) : call.withStage call.stage = call := rfl

/-- What a turn can do. -/
inductive Moves (call : Call) (store : Store) : Turn → Stage → Store → Prop where
  | idle (turn : Turn) : Moves call store turn call.stage store
  | failed (turn : Turn) (error : ResolveError) (pending : call.stage.result? = none) :
      Moves call store turn (.failed error) store
  | own (now : Instant) (answer : Octets) (pending : call.stage.result? = none) :
      Moves call store (.check now) (.own answer) store
  | admitted {token : String} {forwarded : Octets} {multiplier : Int} (now : Instant)
      (pending : call.stage.result? = none) (holder : call.query.token = some token)
      (planned : call.resolver.plan token call.query = .ok (.forward forwarded multiplier)) :
      Moves call store (.check now) (.admitted token forwarded multiplier) store
  | answered {token : String} {forwarded : Octets} {multiplier : Int} (answer : Octets)
      (before : call.stage = .admitted token forwarded multiplier) :
      Moves call store (.exchange (some answer)) (.answered token forwarded answer multiplier) store
  | delivered {now : Instant} {token : String} {forwarded answer : Octets} {multiplier amount : Int}
      {later : Store} (before : call.stage = .answered token forwarded answer multiplier)
      (priced : price? forwarded answer multiplier = some amount)
      (debited : store.cost token amount now = .ok later) :
      Moves call store (.charge now) (.delivered forwarded answer) later

theorem moves_admission (now : Instant) (store : Store) (pending : call.stage.result? = none) :
    call.Moves store (.check now) (call.admission now store) store := by
  unfold admission
  cases served : authorize call.query now (.store store) with
  | error error => exact .failed _ error pending
  | ok token =>
      obtain ⟨holder, -, -⟩ := Resolver.authorize_eq_ok served
      simp only
      cases planned : call.resolver.plan token call.query with
      | error error => exact .failed _ error pending
      | ok plan =>
          cases plan with
          | answer answer => exact .own now answer pending
          | forward forwarded multiplier => exact .admitted now pending holder planned

theorem moves (call : Call) (turn : Turn) (store : Store) :
    call.Moves store turn (call.next turn store).1 (call.next turn store).2 := by
  unfold next
  split
  next before => exact moves_admission _ store (by rw [before]; rfl)
  next before => exact .failed _ _ (by rw [before]; rfl)
  next before => exact .answered _ before
  next token forwarded answer multiplier now before =>
      cases priced : price? forwarded answer multiplier with
      | none => exact .failed _ _ (by rw [before]; rfl)
      | some amount =>
          dsimp only
          cases debited : store.cost token amount now with
          | error reason => exact .failed _ _ (by rw [before]; rfl)
          | ok later => exact .delivered before priced debited
  next => exact .idle _

/-- A call that has returned takes no more turns. -/
theorem next_of_returned {result : Except ResolveError Octets}
    (returned : call.stage.result? = some result) (turn : Turn) (store : Store) :
    call.next turn store = (call.stage, store) := by
  cases reached : call.stage with
  | arrived | admitted | answered => simp [reached, Stage.result?] at returned
  | failed | own | delivered => simp [next, reached]

/-- The recursor's answer comes with the turn in which the recursor is asked. -/
theorem exchanged?_next {turn : Turn} {forwarded answer : Octets}
    (has : (call.next turn store).1.exchanged? = some (forwarded, answer)) :
    call.stage.exchanged? = some (forwarded, answer) ∨ turn = .exchange (some answer) := by
  have moved := call.moves turn store
  generalize (call.next turn store).1 = stage, (call.next turn store).2 = later at moved has
  cases moved with
  | idle => exact Or.inl has
  | failed | own | admitted => cases has
  | answered received before =>
      obtain ⟨-, rfl⟩ := Prod.mk.inj (Option.some.inj has)
      exact Or.inr rfl
  | delivered before =>
      rw [before]
      exact Or.inl has

/-- A call that is forwarded does what was planned for its query. -/
def OnPlan (call : Call) : Prop :=
  match call.stage with
  | .admitted token forwarded multiplier | .answered token forwarded _ multiplier =>
    call.query.token = some token ∧
      call.resolver.plan token call.query = .ok (.forward forwarded multiplier)
  | .delivered forwarded _ => ∃ token multiplier, call.query.token = some token ∧
      call.resolver.plan token call.query = .ok (.forward forwarded multiplier)
  | .arrived | .failed _ | .own _ => True

theorem onPlan_next (onPlan : call.OnPlan) (turn : Turn) (store : Store) :
    (call.withStage (call.next turn store).1).OnPlan := by
  have moved := call.moves turn store
  generalize (call.next turn store).1 = stage, (call.next turn store).2 = later at moved
  cases moved with
  | idle => exact onPlan
  | failed | own => trivial
  | admitted now pending holder planned => exact ⟨holder, planned⟩
  | answered answer before =>
      rw [OnPlan, before] at onPlan
      exact onPlan
  | delivered before =>
      rw [OnPlan, before] at onPlan
      exact ⟨_, _, onPlan⟩

/-- A call that keeps to its plan and is not free. -/
structure Sound (call : Call) : Prop where
  onPlan : call.OnPlan
  positive : 0 < call.resolver.relayMultiplier

theorem sound_next (sound : call.Sound) (turn : Turn) (store : Store) :
    (call.withStage (call.next turn store).1).Sound :=
  ⟨onPlan_next sound.onPlan turn store, sound.positive⟩

theorem billed_of_pending (pending : call.stage.result? = none) : call.billed owner = 0 := by
  unfold billed
  split
  next delivered => simp [delivered, Stage.result?] at pending
  next => rfl

/-- What a call is about to debit is the price of its octets, and it is never nothing. -/
theorem Sound.price?_eq {token : String} {forwarded answer : Octets} {multiplier : Int}
    (sound : call.Sound) (waits : call.stage = .answered token forwarded answer multiplier)
    (fits : Text.fitsInt64 call.amount = true) :
    price? forwarded answer multiplier = some call.amount ∧ 0 < call.amount := by
  obtain ⟨onPlan, positive⟩ := sound
  rw [OnPlan, waits] at onPlan
  obtain ⟨-, planned⟩ := onPlan
  rw [amount, waits] at fits ⊢
  exact ⟨Resolver.price?_of_fits planned fits, Resolver.amount_pos positive planned answer⟩

/-- A turn takes from a token what it adds to the bill of its call. -/
theorem Sound.next_balance (sound : call.Sound) (fits : Text.fitsInt64 call.amount = true)
    (turn : Turn) (store : Store) (owner : String) :
    store.balance owner - (call.next turn store).2.balance owner =
      (call.withStage (call.next turn store).1).billed owner - call.billed owner := by
  have moved := call.moves turn store
  generalize (call.next turn store).1 = stage, (call.next turn store).2 = later at moved
  cases moved with
  | idle => simp
  | failed turn error pending | own now answer pending | admitted now pending =>
      rw [billed_of_pending pending]
      simp [billed]
  | answered answer before =>
      have pending : call.stage.result? = none := by rw [before]; rfl
      rw [billed_of_pending pending]
      simp [billed]
  | @delivered now token forwarded answer multiplier amount later before priced debited =>
      obtain ⟨exact_price, amount_pos⟩ := sound.price?_eq before fits
      obtain rfl : call.amount = amount := Option.some.inj (exact_price.symm.trans priced)
      have same_amount : (call.withStage (.delivered forwarded answer)).amount = call.amount := by
        simp [amount, before, Stage.octets]
      obtain ⟨onPlan, -⟩ := sound
      rw [OnPlan, before] at onPlan
      obtain ⟨holder, -⟩ := onPlan
      have pending : call.stage.result? = none := by rw [before]; rfl
      rw [billed_of_pending pending, Store.balance_of_cost amount_pos debited owner]
      simp [billed, holder, same_amount]

/-- A debit that finds nothing changes no ticket, and its call withholds the answer. -/
theorem Sound.next_of_nothing {token : String} {forwarded answer : Octets} {multiplier : Int}
    {now : Instant} (sound : call.Sound)
    (waits : call.stage = .answered token forwarded answer multiplier)
    (fits : Text.fitsInt64 call.amount = true)
    (nothing : ∀ ticket ∈ store.tickets, Store.chargeable token now ticket = false) :
    call.next (.charge now) store = (.failed .unauthorized, store) := by
  obtain ⟨exact_price, amount_pos⟩ := sound.price?_eq waits fits
  rcases Store.cost_cases token call.amount now store with
    ⟨free, -⟩ | ⟨-, -, refused⟩ | ⟨-, ⟨ticket, mem, pays⟩, -⟩
  · omega
  · simp only [next, waits, exact_price, refused]
  · rw [nothing ticket mem] at pays
    cases pays

/-- Without interruption, a call ends as the whole query does. -/
theorem through_eq_resolve (resolver : Resolver) (recursor : Recursor) (query : Query)
    (now : Instant) (store : Store) :
    let ending := resolver.resolve recursor query now (.store store)
    let last := (Call.mk resolver query .arrived).through
      [.check now, .exchange (ending.forwarded.bind recursor), .charge now] store
    last.1.result? = some ending.result ∧ .store last.2 = ending.ledger := by
  have ends := resolver.resolved recursor query now store
  generalize resolver.resolve recursor query now (.store store) = ending at ends
  cases ends with
  | denied denied => simp [through, next, admission, withStage, denied, Stage.result?]
  | failed served failed =>
      simp [through, next, admission, withStage, served, failed, Stage.result?]
  | own served planned =>
      simp [through, next, admission, withStage, served, planned, Stage.result?]
  | unanswered served planned silent =>
      simp [through, next, admission, withStage, served, planned, silent, Stage.result?]
  | unpriced served planned answered unpriced =>
      simp [through, next, admission, withStage, served, planned, answered, unpriced, Stage.result?]
  | withheld served planned answered priced refused =>
      simp [through, next, admission, withStage, served, planned, answered, priced, refused,
        Stage.result?]
  | delivered served planned answered priced debited =>
      simp [through, next, admission, withStage, served, planned, answered, priced, debited,
        Stage.result?]

end Call

end Tollgate.Dns
