import Tollgate.Proofs.Tunnel.SessionBilling
import Tollgate.Tunnel.Relay

/-!
# Relays as sessions

A relay that is paid for takes its steps without interruption: a batch is debited as soon as it was
handed over, and when the relay ends the last debit follows at once. So the run of a relay is a
session in which nothing comes in between, and what it relays is what crosses in the session.
-/

namespace Tollgate.Tunnel

open Metering (Meter)

/-- The octets that an event moves across the target's side. -/
def RelayEvent.octets : RelayEvent → Nat
  | .fromClient bytes | .fromTarget bytes => bytes.length
  | .clientEnds | .targetEnds | .closes | .passes _ => 0

namespace Relay

/-- A relay after events in order, each at its time. -/
def run (relay : Relay) (ledger : Ledger) : List (RelayEvent × Instant) → Relay × Ledger
  | [] => (relay, ledger)
  | (event, now) :: rest =>
    let step := relay.step event now ledger
    step.relay.run step.ledger rest

/-- The octets that cross the target's side while the relay is open. -/
def relayed (relay : Relay) (ledger : Ledger) : List (RelayEvent × Instant) → Nat
  | [] => 0
  | (event, now) :: rest =>
    let step := relay.step event now ledger
    (if relay.isOpen then event.octets else 0) + step.relay.relayed step.ledger rest

/-- A relay is at a point of a session where no debit is under way. -/
structure IsAt (relay : Relay) (ledger : Ledger) (billing : Billing) (session : Session) :
    Prop where
  bill : relay.bill = some (billing, session.meter)
  ledger : ledger = session.ledger
  waiting : session.inFlight = none
  stopping : session.stopping = !relay.isOpen
  closed : session.closed = true → relay.isOpen = false
  ended : relay.isOpen = false → session.meter.isRunning = false

variable {relay : Relay} {ledger : Ledger} {billing : Billing} {session : Session}

theorem isAt_start (billing : Billing) (period : Nat) (ledger : Ledger) :
    (start (some (billing, period))).IsAt ledger billing (.start period ledger) :=
  ⟨rfl, rfl, rfl, rfl, fun closed => absurd closed Bool.false_ne_true,
    fun closed => absurd closed.symm Bool.false_ne_true⟩

/-! ## One step -/

/-- A batch that was handed over is debited as the relay debits it. -/
theorem settled (billing : Billing) (session : Session) (batch : Option UInt64) (meter : Meter)
    (traffic : Traffic) (now : Instant) :
    let outcome := settle billing batch now session.ledger
    let after := (session.hand batch meter traffic).after billing (.answers now)
    after.meter = meter ∧ after.ledger = outcome.2 ∧ after.inFlight = none ∧
      after.stopping = session.stopping ∧ after.closed = (session.closed || !outcome.1) := by
  cases batch with
  | none => exact ⟨rfl, rfl, rfl, rfl, (Bool.or_false _).symm⟩
  | some batch => exact ⟨rfl, rfl, rfl, rfl, rfl⟩

theorem isAt_close (bill : relay.bill = some (billing, session.meter))
    (waiting : session.inFlight = none) (now : Instant) :
    (relay.close now session.ledger).1.IsAt (relay.close now session.ledger).2 billing
      (session.run billing [.stops, .breaks, .answers now]) := by
  obtain ⟨traffic, broken⟩ : ∃ traffic, (session.after billing .stops).after billing .breaks =
      (session.after billing .stops).hand session.meter.stop.1 session.meter.stop.2 traffic := by
    simp [Session.after, waiting]
  have ended : session.run billing [.stops, .breaks, .answers now] =
      (((session.after billing .stops).hand session.meter.stop.1 session.meter.stop.2
        traffic).after billing (.answers now)) :=
    congrArg (Session.after billing · (.answers now)) broken
  obtain ⟨meter, debited, idle, stopping, -⟩ :=
    settled billing (session.after billing .stops) session.meter.stop.1 session.meter.stop.2 traffic
      now
  have closes : relay.close now session.ledger =
      (⟨some (billing, session.meter.stop.2), false⟩,
        (settle billing session.meter.stop.1 now session.ledger).2) := by
    simp [close, bill]
  rw [closes, ended]
  refine ⟨by rw [meter], debited.symm, idle, stopping, fun _ => rfl, fun _ => ?_⟩
  rw [meter, Meter.isRunning_stop]

/-- While time goes on, a relay is where its session is. -/
theorem isAt_pass (isAt : relay.IsAt ledger billing session) (elapsed : Nat) (now : Instant) :
    ∃ events, (relay.pass elapsed now ledger).1.IsAt (relay.pass elapsed now ledger).2 billing
      (session.run billing events) ∧ Session.movedBy events = 0 := by
  obtain ⟨bill, rfl, waiting, stopping_eq, closed, ended⟩ := isAt
  obtain ⟨traffic, passed⟩ : ∃ traffic, session.after billing (.passes elapsed) =
      session.hand (session.meter.advance elapsed).1 (session.meter.advance elapsed).2 traffic := by
    simp [Session.after, waiting]
  obtain ⟨meter, debited, idle, stopping, closes⟩ := settled billing session
    (session.meter.advance elapsed).1 (session.meter.advance elapsed).2 traffic now
  rw [← passed] at meter debited idle stopping closes
  generalize later_eq : (session.after billing (.passes elapsed)).after billing (.answers now) =
    later at meter debited idle stopping closes
  have run_eq : session.run billing [.passes elapsed, .answers now] = later := later_eq
  simp only [pass, bill]
  cases paid : (settle billing (session.meter.advance elapsed).1 now session.ledger).1 with
  | true =>
      refine ⟨[.passes elapsed, .answers now], ?_, rfl⟩
      rw [run_eq, if_pos rfl]
      refine ⟨by rw [meter], debited.symm, idle, stopping.trans stopping_eq,
        fun isClosed => closed ?_, fun isClosed => ?_⟩
      · rwa [closes, paid, Bool.not_true, Bool.or_false] at isClosed
      · rw [meter, Meter.isRunning_advance]
        exact ended isClosed
  | false =>
      -- the failed debit closes the relay, and the meter is flushed once more
      refine ⟨[.passes elapsed, .answers now] ++ [.stops, .breaks, .answers now], ?_, rfl⟩
      rw [Session.run_append, run_eq, if_neg Bool.false_ne_true, ← debited]
      exact isAt_close (by rw [meter]) idle now

theorem isAt_count (isAt : relay.IsAt ledger billing session) (isOpen : relay.isOpen = true)
    (bytes : Octets) (crossing : Crossing)
    (counts : crossing.count session.meter.counter =
      session.meter.counter.add (UInt64.ofNat bytes.length)) :
    (relay.count bytes).IsAt ledger billing (session.run billing [.crosses crossing]) := by
  obtain ⟨bill, rfl, waiting, stopping_eq, closed, ended⟩ := isAt
  have relaying : session.stopping = false := by rw [stopping_eq, isOpen, Bool.not_true]
  have crossed : session.run billing [.crosses crossing] = session.count crossing := by
    simp [Session.run, Session.after, relaying]
  rw [crossed]
  refine ⟨?_, rfl, waiting, stopping_eq, closed, ended⟩
  simp [count, bill, Session.count, counts, Meter.add]

theorem isAt_step (isAt : relay.IsAt ledger billing session) (event : RelayEvent) (now : Instant) :
    ∃ events, (relay.step event now ledger).relay.IsAt (relay.step event now ledger).ledger billing
      (session.run billing events) ∧
      (session.run billing events).traffic.total =
        session.traffic.total + if relay.isOpen then event.octets else 0 := by
  cases isOpen : relay.isOpen with
  | false =>
      refine ⟨[], ?_, rfl⟩
      simp only [step, isOpen, Bool.false_eq_true, if_false]
      exact isAt
  | true =>
      have relaying : session.stopping = false := by rw [isAt.stopping, isOpen, Bool.not_true]
      simp only [step, isOpen, if_true, Session.total_run relaying, Nat.add_left_cancel_iff]
      cases event with
      | fromClient bytes =>
          exact ⟨[.crosses (.write (.done bytes.length))], isAt_count isAt isOpen bytes _ rfl, rfl⟩
      | fromTarget bytes =>
          exact ⟨[.crosses (.read (.done bytes))], isAt_count isAt isOpen bytes _ rfl, rfl⟩
      | clientEnds | targetEnds | closes =>
          obtain ⟨bill, rfl, waiting, -, -, -⟩ := isAt
          exact ⟨[.stops, .breaks, .answers now], isAt_close bill waiting now, rfl⟩
      | passes elapsed => exact isAt_pass isAt elapsed now

/-! ## A whole run -/

theorem isAt_run (isAt : relay.IsAt ledger billing session) (events : List (RelayEvent × Instant)) :
    ∃ inSession, (relay.run ledger events).1.IsAt (relay.run ledger events).2 billing
      (session.run billing inSession) ∧
      (session.run billing inSession).traffic.total =
        session.traffic.total + relay.relayed ledger events := by
  induction events generalizing relay ledger session with
  | nil => exact ⟨[], isAt, rfl⟩
  | cons first rest ih =>
      obtain ⟨event, now⟩ := first
      obtain ⟨before, atNext, crossed⟩ := isAt_step isAt event now
      obtain ⟨later, atEnd, crossedLater⟩ := ih atNext
      refine ⟨before ++ later, ?_, ?_⟩
      · rw [Session.run_append]
        exact atEnd
      · rw [Session.run_append, crossedLater, crossed, relayed, Nat.add_assoc]

/-- When a relay that is paid for has closed, what it relayed was debited in batches, as far as it
fits into the counter between two flushes. -/
theorem closed_relay_billed {period : Nat} (positive : 0 < period) (ledger : Ledger)
    (events : List (RelayEvent × Instant))
    (closed : ((start (some (billing, period))).run ledger events).1.isOpen = false) :
    ∃ session : Session, session.Sound billing ∧ session.isOver = true ∧
      session.ledger = ((start (some (billing, period))).run ledger events).2 ∧
      (session.octets = (start (some (billing, period))).relayed ledger events ↔
        ∀ stretch ∈ session.traffic.stretches, stretch < 2 ^ 64) := by
  obtain ⟨inSession, atEnd, crossed⟩ := isAt_run (isAt_start billing period ledger) events
  have sound : ((Session.start period ledger).run billing inSession).Sound billing :=
    Session.sound_run (Session.sound_start positive ledger) inSession
  have done : ((Session.start period ledger).run billing inSession).isOver = true := by
    simp [Session.isOver, atEnd.ended closed, atEnd.waiting]
  have none_before : (Session.start period ledger).traffic.total = 0 := rfl
  rw [none_before, Nat.zero_add] at crossed
  refine ⟨_, sound, done, atEnd.ledger.symm, ?_⟩
  rw [← crossed]
  exact Session.octets_eq_iff sound done

end Relay

end Tollgate.Tunnel
