import Tollgate.Octets

/-!
# Pipes

A pipe holds a bounded number of octets between a writer and a reader. Either of them may close it;
what it holds by then can still be read.
-/

namespace Tollgate.Metering

/-- How an attempt to read or write went. -/
inductive Attempt (α : Type) where
  | done (value : α)
  /-- Nothing can be done yet. -/
  | pending
  /-- The other side is gone. -/
  | broken
  deriving DecidableEq, Repr

def Attempt.moved {α : Type} (size : α → Nat) : Attempt α → Nat
  | .done value => size value
  | .pending | .broken => 0

/-- One direction of a connection in memory. -/
structure Pipe where
  capacity : Nat
  held : Octets := []
  closed : Bool := false
  deriving Repr

namespace Pipe

/-- Writes as much as fits, and says how much that is. -/
def write (pipe : Pipe) (bytes : Octets) : Attempt Nat × Pipe :=
  let room := pipe.capacity - pipe.held.length
  if bytes.isEmpty then (.done 0, pipe)
  else if pipe.closed then (.broken, pipe)
  else if room = 0 then (.pending, pipe)
  else
    let taken := bytes.take room
    (.done taken.length, { pipe with held := pipe.held ++ taken })

/-- Reads up to a number of octets. A closed pipe gives what it holds, and then nothing. -/
def read (pipe : Pipe) (most : Nat) : Attempt Octets × Pipe :=
  if pipe.held.isEmpty then (if pipe.closed then .done [] else .pending, pipe)
  else (.done (pipe.held.take most), { pipe with held := pipe.held.drop most })

def close (pipe : Pipe) : Pipe := { pipe with closed := true }

end Pipe

end Tollgate.Metering
