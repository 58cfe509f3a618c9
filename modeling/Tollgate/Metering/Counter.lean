import Tollgate.Metering.Pipe

/-!
# Counting traffic

Octets that cross a stream are counted in a 64-bit word, which is emptied to debit them. A metered
stream counts what was really read or written; attempts that have to wait or fail count nothing.
-/

namespace Tollgate.Metering

/-- The octets that were not debited yet. -/
structure ByteCounter where
  pending : UInt64 := 0
  deriving DecidableEq, Repr

namespace ByteCounter

def add (counter : ByteCounter) (n : UInt64) : ByteCounter := ⟨counter.pending + n⟩

/-- What was counted, and a counter that starts over. -/
def take (counter : ByteCounter) : UInt64 × ByteCounter := (counter.pending, ⟨0⟩)

def observe {α : Type} (size : α → Nat) (counter : ByteCounter) : Attempt α → ByteCounter
  | .done moved => counter.add (UInt64.ofNat (size moved))
  | _ => counter

end ByteCounter

/-- A stream whose traffic is counted in both directions. -/
structure MeteredStream where
  incoming : Pipe
  outgoing : Pipe
  counter : ByteCounter := {}
  deriving Repr

namespace MeteredStream

/-- Both directions hold the same number of octets. -/
def ofCapacity (capacity : Nat) : MeteredStream where
  incoming := { capacity }
  outgoing := { capacity }

def write (stream : MeteredStream) (bytes : Octets) : Attempt Nat × MeteredStream :=
  let (attempt, outgoing) := stream.outgoing.write bytes
  (attempt, { stream with outgoing, counter := stream.counter.observe id attempt })

def read (stream : MeteredStream) (most : Nat) : Attempt Octets × MeteredStream :=
  let (attempt, incoming) := stream.incoming.read most
  (attempt, { stream with incoming, counter := stream.counter.observe List.length attempt })

def shutdown (stream : MeteredStream) : MeteredStream :=
  { stream with outgoing := stream.outgoing.close }

def peerWrite (stream : MeteredStream) (bytes : Octets) : Attempt Nat × MeteredStream :=
  let (attempt, incoming) := stream.incoming.write bytes
  (attempt, { stream with incoming })

def peerRead (stream : MeteredStream) (most : Nat) : Attempt Octets × MeteredStream :=
  let (attempt, outgoing) := stream.outgoing.read most
  (attempt, { stream with outgoing })

def peerDrop (stream : MeteredStream) : MeteredStream :=
  { stream with incoming := stream.incoming.close, outgoing := stream.outgoing.close }

end MeteredStream

end Tollgate.Metering
