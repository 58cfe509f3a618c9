import Tollgate.Metering.Counter

/-!
# Meters

A meter empties its counter once in every period, and a last time when it stops. What a flush finds
is one batch; an empty counter makes none. A meter without a period never flushes.
-/

namespace Tollgate.Metering

/-- A meter. Time is counted in milliseconds from its start. -/
structure Meter where
  counter : ByteCounter := {}
  period : Nat
  /-- When the next flush is due; nothing once no more flushes come. -/
  due : Option Nat
  deriving DecidableEq, Repr

namespace Meter

/-- A flush that comes later than this after it was due puts off all later ones. -/
def tolerance : Nat := 5

def ofPeriod (period : Nat) : Meter :=
  { period, due := if period = 0 then none else some period }

def add (meter : Meter) (n : UInt64) : Meter := { meter with counter := meter.counter.add n }

def isRunning (meter : Meter) : Bool := meter.due.isSome

def isDue (meter : Meter) (now : Nat) : Bool := meter.due.any (· ≤ now)

/-- Empties the counter; what was in it is a batch unless it is zero. -/
def flush (meter : Meter) : Option UInt64 × Meter :=
  let (found, counter) := meter.counter.take
  (if found = 0 then none else some found, { meter with counter })

/-- When the flush after one that was due at `due` and comes at `now` is due: in the same rhythm, or
one period later if it is too late for that. -/
def nextDue (period due now : Nat) : Nat :=
  if due + tolerance < now then now + period else due + ((now - due) / period + 1) * period

/-- Lets time go on. If a flush is due, it happens once, however long it has been due. -/
def advance (meter : Meter) (now : Nat) : Option UInt64 × Meter :=
  match meter.due with
  | none => (none, meter)
  | some due =>
    if due ≤ now then
      let (batch, meter) := meter.flush
      (batch, { meter with due := some (nextDue meter.period due now) })
    else (none, meter)

/-- Stops the meter, after a last flush if it was running. -/
def stop (meter : Meter) : Option UInt64 × Meter :=
  if meter.isRunning then
    let (batch, meter) := meter.flush
    (batch, { meter with due := none })
  else (none, meter)

end Meter

end Tollgate.Metering
