import Tollgate.Proofs.Metering.Meter
import Tollgate.Tunnel.Session
import Mathlib.Algebra.BigOperators.Group.List.Basic
import Mathlib.Tactic.Ring

/-!
# What a session keeps up

`Session.Moves` says once what an event can do. The batches that were handed over are what crossed
between flushes, as far as it fits into the counter, without the stretches of which nothing is left.
-/

namespace Tollgate.Tunnel

open Metering (ByteCounter Meter)

theorem Crossing.count_eq (crossing : Crossing) (counter : ByteCounter) :
    crossing.count counter = counter.add (UInt64.ofNat crossing.moved) := by
  cases crossing with
  | read attempt => exact counter.observe_eq List.length attempt
  | write attempt => exact counter.observe_eq id attempt
  | receive socket => exact counter.observe_eq _ (socket maxUdpPayload)
  | send capsule socket =>
      simp only [count, moved, Capsule.forward]
      cases carried : capsule.udpPayload? with
      | none => simp [ByteCounter.add]
      | some payload => exact counter.observe_eq id (socket payload)

namespace Billing

/-- A debit asks the ledger for the price of its batch, and is paid if the ledger grants that. -/
theorem debit_cases (billing : Billing) (batch : UInt64) (now : Instant) (ledger : Ledger) :
    (∃ later, ledger.cost billing.token (billing.price batch) now = .ok later ∧
      billing.debit batch now ledger = (⟨batch, billing.price batch, now, true⟩, later)) ∨
    (∃ error, ledger.cost billing.token (billing.price batch) now = .error error ∧
      billing.debit batch now ledger = (⟨batch, billing.price batch, now, false⟩, ledger)) := by
  cases asked : ledger.cost billing.token (billing.price batch) now with
  | ok later => exact .inl ⟨later, rfl, by simp [debit, asked]⟩
  | error error => exact .inr ⟨error, rfl, by simp [debit, asked]⟩

@[simp] theorem batch_debit (billing : Billing) (batch : UInt64) (now : Instant)
    (ledger : Ledger) : (billing.debit batch now ledger).1.batch = batch := by
  obtain ⟨_, -, debited⟩ | ⟨_, -, debited⟩ := billing.debit_cases batch now ledger
  all_goals rw [debited]

@[simp] theorem amount_debit (billing : Billing) (batch : UInt64) (now : Instant)
    (ledger : Ledger) : (billing.debit batch now ledger).1.amount = billing.price batch := by
  obtain ⟨_, -, debited⟩ | ⟨_, -, debited⟩ := billing.debit_cases batch now ledger
  all_goals rw [debited]

end Billing

namespace Traffic

def total (traffic : Traffic) : Nat := traffic.stretches.sum

@[simp] theorem total_add (traffic : Traffic) (moved : Nat) :
    (traffic.add moved).total = traffic.total + moved := by
  simp [total, stretches, add, Nat.add_assoc]

@[simp] theorem total_cut (traffic : Traffic) : traffic.cut.total = traffic.total := by
  simp [total, stretches, cut]

end Traffic

namespace Session

def Event.moved : Event → Nat
  | .crosses crossing => crossing.moved
  | .passes _ | .stops | .breaks | .answers _ | .others _ => 0

/-- What others do to the ledger with an event. -/
def Event.change? : Event → Option (Ledger → Ledger)
  | .others change => some change
  | .crosses _ | .passes _ | .stops | .breaks | .answers _ => none

/-- What crosses before the relay is over. -/
def movedBy : List Event → Nat
  | [] => 0
  | .stops :: _ => 0
  | event :: rest => event.moved + movedBy rest

/-! ## One event -/

/-- The session with an empty counter, and what was in it under way. -/
def flush (session : Session) (due : Option Nat) : Session :=
  session.hand session.meter.flush.1 { session.meter.flush.2 with due } session.traffic.cut

/-- What an event can do. -/
inductive Moves (billing : Billing) (session : Session) : Event → Session → Prop where
  | idle (event : Event) (nothing : event.moved = 0 ∨ session.stopping = true)
      (unchanged : event.change? = none) (relaying : event ≠ .stops) :
      Moves billing session event session
  | counts (crossing : Crossing) (relaying : session.stopping = false) :
      Moves billing session (.crosses crossing) (session.count crossing)
  | ticks (elapsed due : Nat) (waiting : session.inFlight = none) :
      Moves billing session (.passes elapsed) (session.flush (some due))
  | ends (waiting : session.inFlight = none) (stopping : session.stopping = true) :
      Moves billing session .breaks (session.flush none)
  | stops : Moves billing session .stops { session with stopping := true }
  | settles (batch : UInt64) (now : Instant) (underway : session.inFlight = some batch) :
      Moves billing session (.answers now) (session.settle billing batch now)
  | changes (change : Ledger → Ledger) :
      Moves billing session (.others change) { session with ledger := change session.ledger }

variable {billing : Billing} {session : Session} {period : Nat}

theorem hand_self (waiting : session.inFlight = none) :
    session.hand none session.meter session.traffic = session := by
  cases session
  cases waiting
  rfl

theorem moves_passes (billing : Billing) (session : Session) (elapsed : Nat) :
    Moves billing session (.passes elapsed) (session.after billing (.passes elapsed)) := by
  have idle : Moves billing session (.passes elapsed) session :=
    .idle _ (Or.inl rfl) rfl Event.noConfusion
  rw [after]
  cases underway : session.inFlight with
  | some batch => exact idle
  | none =>
      cases due : session.meter.isDue elapsed with
      | false =>
          simp only [Meter.advance_of_not_isDue due, Bool.false_eq_true, if_false,
            hand_self underway, Option.isSome_none]
          exact idle
      | true =>
          obtain ⟨next, advanced⟩ := Meter.advance_of_isDue due
          simp only [advanced, Option.isSome_none, Bool.false_eq_true, if_false, if_true]
          exact .ticks elapsed next underway

theorem moves_breaks (billing : Billing) (session : Session) :
    Moves billing session .breaks (session.after billing .breaks) := by
  have idle : Moves billing session .breaks session := .idle _ (Or.inl rfl) rfl Event.noConfusion
  rw [after]
  cases underway : session.inFlight with
  | some batch => exact idle
  | none =>
      cases stopping : session.stopping with
      | false => exact idle
      | true =>
          cases running : session.meter.isRunning with
          | false =>
              simp only [Meter.stop, running, Bool.false_eq_true, if_false, hand_self underway,
                Option.isSome_none, Bool.not_true, Bool.or_self]
              exact idle
          | true =>
              simp only [Meter.stop, running, if_true, Option.isSome_none, Bool.not_true,
                Bool.or_self, Bool.false_eq_true, if_false]
              exact .ends underway stopping

theorem moves (billing : Billing) (session : Session) (event : Event) :
    Moves billing session event (session.after billing event) := by
  cases event with
  | crosses crossing =>
      rw [after]
      cases stopping : session.stopping with
      | true => exact .idle _ (Or.inr stopping) rfl Event.noConfusion
      | false => exact .counts crossing stopping
  | passes elapsed => exact moves_passes billing session elapsed
  | stops => exact .stops
  | breaks => exact moves_breaks billing session
  | answers now =>
      rw [after]
      cases underway : session.inFlight with
      | none => exact .idle _ (Or.inl rfl) rfl Event.noConfusion
      | some batch => exact .settles batch now underway
  | others change => exact .changes change

/-! ## What every event keeps up -/

/-- What is known of every session. -/
structure Sound (billing : Billing) (session : Session) : Prop where
  /-- Each stretch that a flush has ended is in one batch, and in no other. -/
  handed : session.handed = (session.traffic.past.map UInt64.ofNat).filter (· ≠ 0)
  /-- The stretch that no flush has ended yet is in the counter. -/
  pending : session.meter.counter.pending = UInt64.ofNat session.traffic.current
  priced : ∀ debit ∈ session.debits, debit.amount = billing.price debit.batch
  closes : ∀ debit ∈ session.debits, debit.paid = false → session.closed = true
  /-- The last flush comes when nothing crosses any more. -/
  ended : session.meter.isRunning = false → session.stopping = true ∧ session.traffic.current = 0

theorem sound_start (positive : 0 < period) (ledger : Ledger) :
    (start period ledger).Sound billing where
  handed := rfl
  pending := rfl
  priced := List.forall_mem_nil _
  closes := List.forall_mem_nil _
  ended := by
    intro ended
    have running : (start period ledger).meter.isRunning = true := by
      simp [start, Meter.ofPeriod, Meter.isRunning, Nat.ne_of_gt positive]
    rw [running] at ended
    cases ended

theorem handed_of_waiting (waiting : session.inFlight = none) :
    session.handed = session.debits.map (·.batch) := by
  rw [handed, waiting, Option.toList_none, List.append_nil]

/-- A flush hands over what has crossed since the one before, unless nothing is left of it. -/
theorem handed_flush (sound : session.Sound billing) (waiting : session.inFlight = none)
    (due : Option Nat) :
    (session.flush due).handed =
      ((session.flush due).traffic.past.map UInt64.ofNat).filter (· ≠ 0) := by
  have before := sound.handed
  rw [handed_of_waiting waiting] at before
  have batch : (session.flush due).inFlight.toList =
      [UInt64.ofNat session.traffic.current].filter (· ≠ 0) := by
    simp only [flush, hand, Meter.flush, ByteCounter.take, sound.pending]
    split
    next nothing => simp [nothing]
    next left => simp [left]
  rw [handed, batch]
  simp only [flush, hand, Traffic.cut, List.map_append, List.filter_append, List.map_singleton,
    before]

theorem sound_flush (sound : session.Sound billing) (waiting : session.inFlight = none)
    {due : Option Nat} (last : due = none → session.stopping = true) :
    (session.flush due).Sound billing where
  handed := handed_flush sound waiting due
  pending := rfl
  priced := sound.priced
  closes := sound.closes
  ended := by
    intro ended
    refine ⟨last ?_, rfl⟩
    simpa [flush, hand, Meter.isRunning] using ended

theorem debits_settle (batch : UInt64) (now : Instant) :
    (session.settle billing batch now).debits =
      session.debits ++ [(billing.debit batch now session.ledger).1] := rfl

theorem sound_settle (sound : session.Sound billing) {batch : UInt64}
    (underway : session.inFlight = some batch) (now : Instant) :
    (session.settle billing batch now).Sound billing where
  handed := by
    have before := sound.handed
    rw [Session.handed, underway] at before
    simpa [settle, Session.handed] using before
  pending := sound.pending
  priced := by
    intro debit mem
    rw [debits_settle] at mem
    rcases List.mem_append.mp mem with mem | mem
    · exact sound.priced debit mem
    · rw [List.mem_singleton.mp mem, Billing.amount_debit, Billing.batch_debit]
  closes := by
    intro debit mem failed
    rw [debits_settle] at mem
    rcases List.mem_append.mp mem with mem | mem
    · simp [settle, sound.closes debit mem failed]
    · rw [List.mem_singleton.mp mem] at failed
      simp [settle, failed]
  ended := sound.ended

theorem sound_after (sound : session.Sound billing) (event : Event) :
    (session.after billing event).Sound billing := by
  have moved := session.moves billing event
  generalize session.after billing event = later at moved
  cases moved with
  | idle => exact sound
  | counts crossing relaying =>
      refine ⟨sound.handed, ?_, sound.priced, sound.closes, ?_⟩
      · simp [count, Crossing.count_eq, ByteCounter.add, Traffic.add, sound.pending]
      · -- a meter that has ended counts nothing more, as its relay is over
        intro ended
        rw [(sound.ended ended).1] at relaying
        cases relaying
  | ticks elapsed due waiting =>
      exact sound_flush sound waiting fun ended => absurd ended (Option.some_ne_none due)
  | ends waiting stopping => exact sound_flush sound waiting fun _ => stopping
  | stops =>
      exact ⟨sound.handed, sound.pending, sound.priced, sound.closes,
        fun ended => ⟨rfl, (sound.ended ended).2⟩⟩
  | settles batch now underway => exact sound_settle sound underway now
  | changes change =>
      exact ⟨sound.handed, sound.pending, sound.priced, sound.closes, sound.ended⟩

theorem movedBy_cons {event : Event} (relaying : event ≠ .stops) (rest : List Event) :
    movedBy (event :: rest) = event.moved + movedBy rest := by
  cases event with
  | stops => exact absurd rfl relaying
  | crosses | passes | breaks | answers | others => rfl

theorem stopping_after {event : Event} (relaying : event ≠ .stops) :
    (session.after billing event).stopping = session.stopping := by
  have moved := session.moves billing event
  generalize session.after billing event = later at moved
  cases moved with
  | stops => exact absurd rfl relaying
  | idle | counts | ticks | ends | settles | changes => rfl

theorem total_after (billing : Billing) (session : Session) (event : Event) :
    (session.after billing event).traffic.total =
      session.traffic.total + if session.stopping then 0 else event.moved := by
  have moved := session.moves billing event
  generalize session.after billing event = later at moved
  cases moved with
  | idle event nothing =>
      rcases nothing with nothing | stopping
      · simp [nothing]
      · simp [stopping]
  | counts crossing relaying => simp [count, relaying, Event.moved]
  | ticks | ends => simp [flush, hand, Event.moved]
  | stops | settles | changes => simp [settle, Event.moved]

/-! ## A whole run -/

theorem run_cons (billing : Billing) (session : Session) (event : Event) (rest : List Event) :
    session.run billing (event :: rest) = (session.after billing event).run billing rest := rfl

theorem run_append (billing : Billing) (session : Session) (before later : List Event) :
    session.run billing (before ++ later) = (session.run billing before).run billing later :=
  List.foldl_append

theorem sound_run (sound : session.Sound billing) (events : List Event) :
    (session.run billing events).Sound billing := by
  induction events generalizing session with
  | nil => exact sound
  | cons event rest ih => exact ih (sound_after sound event)

theorem total_run_of_stopping (stopping : session.stopping = true) (events : List Event) :
    (session.run billing events).traffic.total = session.traffic.total := by
  induction events generalizing session with
  | nil => rfl
  | cons event rest ih =>
      have still : (session.after billing event).stopping = true := by
        by_cases relaying : event = .stops
        · rw [relaying]
          rfl
        · rw [stopping_after relaying, stopping]
      rw [run_cons, ih still, total_after, stopping, if_pos rfl, Nat.add_zero]

/-- What crosses in a session is what crosses before the relay is over. -/
theorem total_run (relaying : session.stopping = false) (events : List Event) :
    (session.run billing events).traffic.total = session.traffic.total + movedBy events := by
  induction events generalizing session with
  | nil => rfl
  | cons event rest ih =>
      rw [run_cons]
      by_cases stops : event = .stops
      · -- what comes behind the stop crosses on neither side
        rw [stops]
        exact total_run_of_stopping rfl rest
      · rw [ih ((stopping_after stops).trans relaying), total_after, relaying,
          movedBy_cons stops, Nat.add_assoc]
        rfl

/-! ## The end -/

theorem inFlight_after_answers (billing : Billing) (session : Session) (now : Instant) :
    (session.after billing (.answers now)).inFlight = none := by
  rw [after]
  cases underway : session.inFlight with
  | none => exact underway
  | some batch => rfl

theorem meter_after_answers (billing : Billing) (session : Session) (now : Instant) :
    (session.after billing (.answers now)).meter = session.meter := by
  rw [after]
  cases session.inFlight with
  | none => rfl
  | some batch => rfl

theorem isRunning_after_breaks (billing : Billing) (waiting : session.inFlight = none)
    (stopping : session.stopping = true) :
    (session.after billing .breaks).meter.isRunning = false := by
  have stopped : (session.after billing .breaks).meter = session.meter.stop.2 := by
    simp [after, waiting, stopping, hand]
  rw [stopped, Meter.isRunning_stop]

/-- Once the relay is over, the task of the meter ends after a last debit. -/
theorem isOver_run_ending (billing : Billing) (session : Session) (now later : Instant) :
    (session.run billing [.stops, .answers now, .breaks, .answers later]).isOver = true := by
  have stopping :
      ((session.after billing .stops).after billing (.answers now)).stopping = true :=
    stopping_after Event.noConfusion
  have ended := isRunning_after_breaks billing
    (inFlight_after_answers billing (session.after billing .stops) now) stopping
  simp [run, isOver, meter_after_answers, ended, inFlight_after_answers]

end Session

end Tollgate.Tunnel
