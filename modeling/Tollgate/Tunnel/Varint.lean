import Tollgate.Octets

/-!
# Variable-length integers

The two top bits of the first octet give the encoded length (1, 2, 4 or 8 octets), which leaves
6, 14, 30 or 62 bits for the value. `decode?` looks at the front of a buffer; `read` takes a value
off a stream, where the end before the first octet is a clean end and any later end is a
truncation.
-/

namespace Tollgate.Tunnel

/-- Ways in which a read from a tunnel's client fails. -/
inductive ReadError where
  /-- The stream ended after something had begun. -/
  | endedEarly
  /-- The stream ended between a capsule's type and its length. -/
  | missingLength
  /-- A capsule announces more than any datagram needs. -/
  | capsuleTooLarge
  deriving DecidableEq, Repr

def ReadError.message : ReadError → String
  | .endedEarly => "early eof"
  | .missingLength => "unexpected end of file"
  | .capsuleTooLarge => "capsule too large"

/-- Whether an error is that the stream ended where more had to come. -/
def ReadError.isUnexpectedEnd : ReadError → Bool
  | .endedEarly | .missingLength => true
  | .capsuleTooLarge => false

namespace Varint

def maxValue : Nat := 0x3FFFFFFFFFFFFFFF

/-- How many octets the shortest encoding of a value takes. -/
def encodedLength (value : Nat) : Nat :=
  if value < 0x40 then 1 else if value < 0x4000 then 2 else if value < 0x40000000 then 4 else 8

/-- The length tag that goes with an encoded length, as the top two bits of the first octet. -/
def lengthTag : Nat → Nat
  | 1 => 0
  | 2 => 1
  | 4 => 2
  | _ => 3

/-- The shortest encoding of a value; values above `maxValue` have none. -/
def encode? (value : Nat) : Option Octets :=
  if value ≤ maxValue then
    let length := encodedLength value
    some (Octets.ofNat length ((lengthTag length <<< (8 * length - 2)) + value))
  else none

/-- What is said of a value that has no encoding. -/
def outOfRangeMessage : String := "varint value out of range"

inductive WriteError where
  /-- No encoding has room for the value. -/
  | outOfRange
  deriving DecidableEq, Repr

def WriteError.message : WriteError → String
  | .outOfRange => outOfRangeMessage

/-- Writes the shortest encoding of a value behind what a buffer holds. -/
def write (value : Nat) : EStateM WriteError Octets Unit :=
  match encode? value with
  | some bytes => modify (· ++ bytes)
  | none => throw .outOfRange

/-- The length that a first octet announces. -/
def announcedLength (first : UInt8) : Nat := 1 <<< (first.toNat / 64)

/-- The value at the front of a buffer and the length of its encoding; nothing while the buffer
holds less than the first octet announces. -/
def decode? (buffer : Octets) : Option (Nat × Nat) := do
  let first ← buffer.head?
  let length := announcedLength first
  if buffer.length < length then none
  else
    let rest := (buffer.take length).drop 1
    some (rest.foldl (fun value byte => value * 256 + byte.toNat) (first.toNat % 64), length)

/-- Takes one value off a stream and leaves what follows. -/
def read : Octets → Except ReadError (Option (Nat × Octets))
  | [] => .ok none
  | first :: stream =>
    match Octets.take? (announcedLength first - 1) stream with
    | none => .error .endedEarly
    | some (more, rest) =>
      .ok (some (((first.toNat % 64) <<< (8 * more.length)) + Octets.toNat more, rest))

/-- A value that `read` takes off a stream shortens the stream. -/
theorem length_lt_of_read {stream rest : Octets} {value : Nat}
    (h : read stream = .ok (some (value, rest))) : rest.length < stream.length := by
  cases stream with
  | nil => simp [read] at h
  | cons first stream =>
    simp only [read] at h
    cases taken : Octets.take? (announcedLength first - 1) stream with
    | none => simp [taken] at h
    | some parts =>
      have remains := Octets.length_of_take? taken
      simp only [taken, Except.ok.injEq, Option.some.injEq, Prod.mk.injEq] at h
      simp only [List.length_cons, ← h.2]
      omega

end Varint

end Tollgate.Tunnel
