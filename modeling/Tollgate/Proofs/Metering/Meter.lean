import Tollgate.Metering.Meter

/-!
# What a meter does

An attempt counts the octets that it has moved. When a flush is due, time that goes on empties the
counter and leaves the meter running, and otherwise it changes nothing.
-/

namespace Tollgate.Metering

variable {α : Type}

theorem ByteCounter.observe_eq (size : α → Nat) (counter : ByteCounter) (attempt : Attempt α) :
    counter.observe size attempt = counter.add (UInt64.ofNat (attempt.moved size)) := by
  cases attempt with
  | done value => rfl
  | pending | broken => simp [observe, add, Attempt.moved]

theorem Meter.advance_of_isDue {meter : Meter} {now : Nat} (isDue : meter.isDue now = true) :
    ∃ next, meter.advance now = (meter.flush.1, { meter.flush.2 with due := some next }) := by
  cases due : meter.due with
  | none => simp [Meter.isDue, due] at isDue
  | some time =>
      have le : time ≤ now := by simpa [Meter.isDue, due] using isDue
      exact ⟨nextDue meter.period time now, by simp [advance, due, le, flush]⟩

theorem Meter.advance_of_not_isDue {meter : Meter} {now : Nat} (isDue : meter.isDue now = false) :
    meter.advance now = (none, meter) := by
  cases due : meter.due with
  | none => simp [advance, due]
  | some time =>
      have lt : ¬ time ≤ now := by simpa [Meter.isDue, due] using isDue
      simp [advance, due, lt]

theorem Meter.isRunning_advance (meter : Meter) (now : Nat) :
    (meter.advance now).2.isRunning = meter.isRunning := by
  cases due : meter.isDue now with
  | false => rw [advance_of_not_isDue due]
  | true =>
      obtain ⟨next, advanced⟩ := advance_of_isDue due
      rw [advanced]
      cases has : meter.due with
      | none => simp [isDue, has] at due
      | some time => simp [isRunning, has]

theorem Meter.isRunning_stop (meter : Meter) : meter.stop.2.isRunning = false := by
  rw [stop]
  cases running : meter.isRunning with
  | false => exact running
  | true => rfl

end Tollgate.Metering
