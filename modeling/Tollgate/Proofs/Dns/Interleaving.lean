import Tollgate.Proofs.Dns.Call
import Mathlib.Algebra.BigOperators.Group.List.Basic
import Mathlib.Data.List.Infix

/-!
# Calls side by side

The gateway answers many queries at once. Between two turns of a call the other calls take theirs,
and anybody may credit and debit tokens. So a token that was active when it was checked may have
nothing left when it is debited.

A run of a `Service` is any sequence of turns and of operations of others. A turn takes from a
token what it adds to the bill of its call, so a run takes what it adds to the bill of all calls.
The calls need not know of each other for that: what they share is the store alone.
-/

namespace Tollgate.Dns

/-- A ticket store and the calls that are served from it. -/
structure Service where
  store : Store
  calls : List Call

/-- What may happen next. -/
inductive Event where
  /-- The call at a place takes a turn. -/
  | turn (place : Nat) (turn : Turn)
  /-- Somebody else credits or debits a token. -/
  | other (operation : LedgerOperation)
  deriving DecidableEq, Repr

namespace Service

/-- The service after a turn of the call at a place. -/
def afterTurn (service : Service) (place : Nat) (turn : Turn) : Service :=
  match service.calls[place]? with
  | none => service
  | some call =>
    ⟨(call.next turn service.store).2,
      service.calls.set place (call.withStage (call.next turn service.store).1)⟩

def after (service : Service) : Event → Service
  | .turn place turn => service.afterTurn place turn
  | .other operation => { service with store := operation.after service.store }

/-- A service with calls that have just arrived. -/
def start (store : Store) (requests : List (Resolver × Query)) : Service :=
  ⟨store, requests.map fun request => ⟨request.1, request.2, .arrived⟩⟩

/-- The service after events in order. -/
def run (service : Service) (events : List Event) : Service := events.foldl after service

/-- What the turns of the calls take from a token in a run. -/
def drawn (owner : String) : Service → List Event → Int
  | _, [] => 0
  | service, .turn place turn :: rest =>
    service.store.balance owner - (service.afterTurn place turn).store.balance owner +
      drawn owner (service.afterTurn place turn) rest
  | service, .other operation :: rest => drawn owner (service.after (.other operation)) rest

/-- What a token owes for all answers of the recursor that have been delivered. -/
def billed (owner : String) (service : Service) : Int :=
  (service.calls.map (·.billed owner)).sum

/-- What the call at a place has returned. -/
def result? (service : Service) (place : Nat) : Option (Except ResolveError Octets) :=
  service.calls[place]?.bind (·.stage.result?)

/-- The call at a place is about to debit its token, and no ticket of it can be charged. -/
def Starved (service : Service) (place : Nat) (now : Instant) : Prop :=
  ∃ call token forwarded answer multiplier, service.calls[place]? = some call ∧
    call.stage = .answered token forwarded answer multiplier ∧
    ∀ ticket ∈ service.store.tickets, Store.chargeable token now ticket = false

end Service

/-! ## A whole run -/

namespace Service

variable {service : Service} {place : Nat} {turn : Turn} {call : Call} {owner : String}

theorem run_cons (service : Service) (event : Event) (rest : List Event) :
    service.run (event :: rest) = (service.after event).run rest := rfl

theorem run_append (service : Service) (before after : List Event) :
    service.run (before ++ after) = (service.run before).run after := List.foldl_append

theorem afterTurn_of_found (found : service.calls[place]? = some call) :
    service.afterTurn place turn =
      ⟨(call.next turn service.store).2,
        service.calls.set place (call.withStage (call.next turn service.store).1)⟩ := by
  simp only [afterTurn, found]

theorem afterTurn_of_missing (missing : service.calls[place]? = none) :
    service.afterTurn place turn = service := by
  simp only [afterTurn, missing]

@[simp] theorem after_turn (service : Service) (place : Nat) (turn : Turn) :
    service.after (.turn place turn) = service.afterTurn place turn := rfl

/-- Every call keeps to its plan, and none is free. -/
def Sound (service : Service) : Prop := ∀ call ∈ service.calls, call.Sound

theorem sound_start {requests : List (Resolver × Query)}
    (positive : ∀ request ∈ requests, 0 < request.1.relayMultiplier) (store : Store) :
    (start store requests).Sound := by
  intro call mem
  obtain ⟨request, listed, rfl⟩ := List.mem_map.mp mem
  exact ⟨trivial, positive request listed⟩

theorem sound_after (sound : service.Sound) (event : Event) : (service.after event).Sound := by
  cases event with
  | other operation => exact sound
  | turn place turn =>
      rw [after_turn]
      cases found : service.calls[place]? with
      | none =>
          rw [afterTurn_of_missing found]
          exact sound
      | some call =>
          rw [afterTurn_of_found found]
          intro other mem
          rcases List.mem_or_eq_of_mem_set mem with kept | rfl
          · exact sound other kept
          · exact Call.sound_next (sound call (List.mem_of_getElem? found)) turn service.store

theorem sound_run (sound : service.Sound) (events : List Event) : (service.run events).Sound := by
  induction events generalizing service with
  | nil => exact sound
  | cons event rest ih => exact ih (sound_after sound event)

theorem billed_start (owner : String) (store : Store) (requests : List (Resolver × Query)) :
    (start store requests).billed owner = 0 := by
  induction requests with
  | nil => rfl
  | cons request rest ih => simpa [billed, start, Call.billed] using ih

/-- Replacing a call changes the bill by the difference of the two calls. -/
theorem billed_set (found : service.calls[place]? = some call) (store : Store) (changed : Call) :
    billed owner ⟨store, service.calls.set place changed⟩ =
      service.billed owner + changed.billed owner - call.billed owner := by
  obtain ⟨inside, rfl⟩ := List.getElem?_eq_some_iff.mp found
  simp only [billed, List.map_set, List.sum_set', List.length_map, List.getElem_map, dif_pos inside]
  omega

/-- A turn takes from a token what it adds to the bill. -/
theorem Sound.afterTurn_balance (sound : service.Sound)
    (fits : ∀ call ∈ service.calls, Text.fitsInt64 call.amount = true)
    (place : Nat) (turn : Turn) (owner : String) :
    service.store.balance owner - (service.afterTurn place turn).store.balance owner =
      (service.afterTurn place turn).billed owner - service.billed owner := by
  cases found : service.calls[place]? with
  | none =>
      rw [afterTurn_of_missing found]
      omega
  | some call =>
      have mem := List.mem_of_getElem? found
      have moved := (sound call mem).next_balance (fits call mem) turn service.store owner
      rw [afterTurn_of_found found, billed_set found]
      simp only
      omega

/-- A run takes from a token what it adds to the bill. -/
theorem Sound.drawn_eq (sound : service.Sound) (events : List Event)
    (fits : ∀ before, before <+: events →
      ∀ call ∈ (service.run before).calls, Text.fitsInt64 call.amount = true) (owner : String) :
    service.drawn owner events = (service.run events).billed owner - service.billed owner := by
  induction events generalizing service with
  | nil => simp [drawn, run]
  | cons event rest ih =>
      have fits_now := fits [] (List.nil_prefix)
      have fits_later : ∀ before, before <+: rest →
          ∀ call ∈ ((service.after event).run before).calls, Text.fitsInt64 call.amount = true := by
        intro before leads
        exact fits (event :: before) (List.cons_prefix_cons.mpr ⟨rfl, leads⟩)
      have later := ih (sound_after sound event) fits_later
      rw [run_cons]
      cases event with
      | turn place turn =>
          have first := sound.afterTurn_balance fits_now place turn owner
          rw [after_turn] at later ⊢
          rw [drawn]
          omega
      | other operation => exact later

/-- What a call has returned, it has returned for good. -/
theorem result?_after {result : Except ResolveError Octets}
    (returned : service.result? place = some result) (event : Event) :
    (service.after event).result? place = some result := by
  cases event with
  | other operation => exact returned
  | turn other turn =>
      rw [after_turn]
      cases found : service.calls[other]? with
      | none => rwa [afterTurn_of_missing found]
      | some call =>
          rw [afterTurn_of_found found, result?, List.getElem?_set]
          split
          next same =>
            subst same
            simp only [result?, found, Option.bind_some] at returned
            have inside := (List.getElem?_eq_some_iff.mp found).1
            simp [inside, Call.next_of_returned returned, returned]
          next => exact returned

theorem result?_run {result : Except ResolveError Octets}
    (returned : service.result? place = some result) (events : List Event) :
    (service.run events).result? place = some result := by
  induction events generalizing service with
  | nil => exact returned
  | cons event rest ih => exact ih (result?_after returned event)

/-- The call at a place has the recursor's answer to what was forwarded. -/
def Holds (service : Service) (place : Nat) (forwarded answer : Octets) : Prop :=
  ∃ call, service.calls[place]? = some call ∧ call.stage.exchanged? = some (forwarded, answer)

/-- An answer that a call has is the one that its exchange brought. -/
theorem holds_after {forwarded answer : Octets} (event : Event)
    (holds : (service.after event).Holds place forwarded answer) :
    service.Holds place forwarded answer ∨ event = .turn place (.exchange (some answer)) := by
  obtain ⟨later, at_place, has⟩ := holds
  cases event with
  | other operation => exact Or.inl ⟨later, at_place, has⟩
  | turn other turn =>
      rw [after_turn] at at_place
      cases found : service.calls[other]? with
      | none =>
          rw [afterTurn_of_missing found] at at_place
          exact Or.inl ⟨later, at_place, has⟩
      | some call =>
          rw [afterTurn_of_found found] at at_place
          by_cases same : other = place
          · subst same
            have inside := (List.getElem?_eq_some_iff.mp found).1
            rw [List.getElem?_set_self inside] at at_place
            obtain rfl := Option.some.inj at_place
            rcases Call.exchanged?_next has with had | rfl
            · exact Or.inl ⟨call, found, had⟩
            · exact Or.inr rfl
          · rw [List.getElem?_set_ne same] at at_place
            exact Or.inl ⟨later, at_place, has⟩

theorem holds_run {forwarded answer : Octets} (events : List Event)
    (holds : (service.run events).Holds place forwarded answer) :
    service.Holds place forwarded answer ∨ .turn place (.exchange (some answer)) ∈ events := by
  induction events generalizing service with
  | nil => exact Or.inl holds
  | cons event rest ih =>
      rcases ih holds with held | brought
      · rcases holds_after event held with held_before | rfl
        · exact Or.inl held_before
        · exact Or.inr List.mem_cons_self
      · exact Or.inr (List.mem_cons_of_mem _ brought)

theorem not_holds_start (store : Store) (requests : List (Resolver × Query)) (place : Nat)
    (forwarded answer : Octets) : ¬ (start store requests).Holds place forwarded answer := by
  rintro ⟨call, at_place, has⟩
  obtain ⟨request, -, rfl⟩ := List.mem_map.mp (List.mem_of_getElem? at_place)
  cases has

/-- A call whose debit finds nothing is refused, and no ticket changes. -/
theorem Starved.refused {now : Instant} (starved : service.Starved place now)
    (sound : service.Sound) (fits : ∀ call ∈ service.calls, Text.fitsInt64 call.amount = true) :
    (service.afterTurn place (.charge now)).store = service.store ∧
      (service.afterTurn place (.charge now)).result? place = some (.error .unauthorized) := by
  obtain ⟨call, token, forwarded, answer, multiplier, found, waits, nothing⟩ := starved
  have mem := List.mem_of_getElem? found
  have inside := (List.getElem?_eq_some_iff.mp found).1
  rw [afterTurn_of_found found, (sound call mem).next_of_nothing waits (fits call mem) nothing]
  exact ⟨rfl, by simp [result?, inside, Stage.result?]⟩

/-- However calls are interleaved with each other and with credits and debits of others, no answer
of the recursor is delivered unbilled, and nothing is billed that is not delivered. What the calls
take from a token is the price of the answers that they deliver. A call that has its answer but
finds nothing left for its debit is refused for good, and changes no ticket. And what is delivered
was brought by an exchange, for a query that was to be forwarded. -/
theorem concurrent_calls_billed_exactly (store : Store) (requests : List (Resolver × Query))
    (events : List Event) (positive : ∀ request ∈ requests, 0 < request.1.relayMultiplier)
    (fits : ∀ before, before <+: events →
      ∀ call ∈ ((start store requests).run before).calls, Text.fitsInt64 call.amount = true) :
    (∀ owner, (start store requests).drawn owner events =
      ((start store requests).run events).billed owner) ∧
    (∀ before place now rest, events = before ++ .turn place (.charge now) :: rest →
      ((start store requests).run before).Starved place now →
        ((start store requests).run (before ++ [.turn place (.charge now)])).store =
          ((start store requests).run before).store ∧
        ((start store requests).run events).result? place = some (.error .unauthorized)) ∧
    (∀ place call forwarded answer, ((start store requests).run events).calls[place]? = some call →
      call.stage = .delivered forwarded answer →
        .turn place (.exchange (some answer)) ∈ events ∧
        ∃ token multiplier, call.query.token = some token ∧
          call.resolver.plan token call.query = .ok (.forward forwarded multiplier)) := by
  have sound := sound_start positive store
  refine ⟨?_, ?_, ?_⟩
  · intro owner
    rw [sound.drawn_eq events fits owner, billed_start]
    omega
  · rintro before place now rest rfl starved
    have fits_then := fits before (List.prefix_append before _)
    have refused := starved.refused (sound_run sound before) fits_then
    rw [run_append, run_append, run_cons, run_cons]
    exact ⟨refused.1, result?_run refused.2 rest⟩
  · intro place call forwarded answer at_place delivered
    have holds : ((start store requests).run events).Holds place forwarded answer :=
      ⟨call, at_place, by rw [delivered]; rfl⟩
    have onPlan := (sound_run sound events call (List.mem_of_getElem? at_place)).onPlan
    rw [Call.OnPlan, delivered] at onPlan
    exact ⟨(holds_run events holds).resolve_left (not_holds_start _ _ _ _ _), onPlan⟩

section

open Resolver (plainResolver relayedQuery fiveBytes)

/-- Two calls for the last bytes of a token. -/
def rivals : Service :=
  start fiveBytes [(plainResolver, relayedQuery), (plainResolver, relayedQuery)]

/-- Both calls are admitted before either is debited. -/
def race : List Event :=
  [.turn 0 (.check 1), .turn 1 (.check 1), .turn 0 (.exchange (some [1, 2, 3])),
    .turn 1 (.exchange (some [1, 2, 3])), .turn 0 (.charge 2), .turn 1 (.charge 2)]

/-- What is forwarded of the query of both calls. -/
def sent : Option Octets :=
  (plainResolver.resolve (fun _ => none) relayedQuery 1 (.store fiveBytes)).forwarded

/-- Of two calls that passed the check with the same last bytes, one is billed in full, and the
other is refused. -/
theorem last_bytes_charged_once :
    rivals.drawn "a" race = 4400 ∧
    (rivals.run race).store = (rivals.run (race.take 5)).store ∧
    (rivals.run race).result? 0 = some (.ok [1, 2, 3]) ∧
    (rivals.run race).result? 1 = some (.error .unauthorized) := by
  have fits : ∀ before ∈ race.inits, ∀ call ∈ (rivals.run before).calls,
      Text.fitsInt64 call.amount = true := by
    decide +kernel
  have account := concurrent_calls_billed_exactly fiveBytes
    [(plainResolver, relayedQuery), (plainResolver, relayedQuery)] race (by decide)
    (fun before leads => fits before ((List.mem_inits before race).mpr leads))
  have owed : (rivals.run race).billed "a" = 4400 := by decide +kernel
  have served : (rivals.run race).result? 0 = some (.ok [1, 2, 3]) := by decide +kernel
  have waits : ((rivals.run (race.take 5)).calls[1]?).map (·.stage) =
      some (.answered "a" (sent.getD []) [1, 2, 3] 100) := by decide +kernel
  have nothing : ∀ ticket ∈ (rivals.run (race.take 5)).store.tickets,
      Store.chargeable "a" 2 ticket = false := by decide +kernel
  have starved : (rivals.run (race.take 5)).Starved 1 2 := by
    obtain ⟨call, found, stage⟩ := Option.map_eq_some_iff.mp waits
    exact ⟨call, "a", _, _, _, found, stage, nothing⟩
  have refused := account.2.1 (race.take 5) 1 2 [] rfl starved
  exact ⟨(account.1 "a").trans owed, refused.1, served, refused.2⟩

end

end Service

end Tollgate.Dns
