import Tollgate.Octets

/-!
# Base64

Three octets are written as four symbols of six bits each; one or two octets at the end take two or
three symbols, which padding may fill up to four. A decoder refuses whatever its encoder cannot have
written and says where it stopped: at the first octet that is no symbol, at a count of symbols that
ends inside an octet, or at a last symbol whose unused bits are not zero.
-/

namespace Tollgate.Text.Base64

/-- The two alphabets, which differ in the symbols for 62 and 63 and in whether ends are padded. -/
inductive Alphabet where
  /-- `+` and `/`, padded to whole groups of four symbols. -/
  | standard
  /-- `-` and `_`, never padded. -/
  | urlSafe
  deriving DecidableEq, Repr

inductive DecodeError where
  | invalidSymbol (symbol : UInt8) (offset : Nat)
  | invalidLength (length : Nat)
  | invalidLastSymbol (symbol : UInt8) (offset : Nat)
  | invalidPadding
  deriving DecidableEq, Repr

/-- The wording of a decoding error; symbols are given by their octet. -/
def DecodeError.message : DecodeError → String
  | .invalidSymbol symbol offset => s!"Invalid symbol {symbol}, offset {offset}."
  | .invalidLength length => s!"Invalid input length: {length}"
  | .invalidLastSymbol symbol offset => s!"Invalid last symbol {symbol}, offset {offset}."
  | .invalidPadding => "Invalid padding"

/-- The octet that fills up the last group. -/
def padding : UInt8 := 0x3D

def symbol (alphabet : Alphabet) (bits : Nat) : UInt8 :=
  if bits < 26 then (0x41 + bits).toUInt8
  else if bits < 52 then (0x61 + (bits - 26)).toUInt8
  else if bits < 62 then (0x30 + (bits - 52)).toUInt8
  else
    match alphabet with
    | .standard => if bits = 62 then 0x2B else 0x2F
    | .urlSafe => if bits = 62 then 0x2D else 0x5F

/-- The six bits that a symbol stands for. -/
def bits? (alphabet : Alphabet) (byte : UInt8) : Option Nat :=
  if 0x41 ≤ byte && byte ≤ 0x5A then some (byte.toNat - 0x41)
  else if 0x61 ≤ byte && byte ≤ 0x7A then some (byte.toNat - 0x61 + 26)
  else if 0x30 ≤ byte && byte ≤ 0x39 then some (byte.toNat - 0x30 + 52)
  else if byte = symbol alphabet 62 then some 62
  else if byte = symbol alphabet 63 then some 63
  else none

/-- Padding for a last group that lacks `missing` symbols. -/
def fill (alphabet : Alphabet) (missing : Nat) : Octets :=
  match alphabet with
  | .standard => List.replicate missing padding
  | .urlSafe => []

def encode (alphabet : Alphabet) : Octets → Octets
  | a :: b :: c :: rest =>
    let n := (a.toNat * 256 + b.toNat) * 256 + c.toNat
    symbol alphabet (n / 262144) :: symbol alphabet (n / 4096 % 64) :: symbol alphabet (n / 64 % 64)
      :: symbol alphabet (n % 64) :: encode alphabet rest
  | [a, b] =>
    let n := (a.toNat * 256 + b.toNat) * 4
    symbol alphabet (n / 4096) :: symbol alphabet (n / 64 % 64) :: symbol alphabet (n % 64)
      :: fill alphabet 1
  | [a] =>
    let n := a.toNat * 16
    symbol alphabet (n / 64) :: symbol alphabet (n % 64) :: fill alphabet 2
  | [] => []

/-- The bits of the symbols of a last group. Padding is allowed from the third place on, and nothing
else after padding. `paddedFrom` is where padding began. -/
def lastBits (alphabet : Alphabet) (offset : Nat) :
    (place : Nat) → (paddedFrom : Option Nat) → Octets → Except DecodeError (List Nat)
  | _, _, [] => .ok []
  | place, paddedFrom, byte :: rest =>
    if byte = padding then
      if place < 2 then .error (.invalidSymbol byte (offset + place))
      else lastBits alphabet offset (place + 1) (paddedFrom <|> some place) rest
    else
      match paddedFrom, bits? alphabet byte with
      | some start, _ => .error (.invalidSymbol padding (offset + start))
      | none, none => .error (.invalidSymbol byte (offset + place))
      | none, some bits => (lastBits alphabet offset (place + 1) none rest).map (bits :: ·)

/-- Whether the padding of a last group is what the alphabet asks for. -/
def paddingFits (alphabet : Alphabet) (symbols length : Nat) : Bool :=
  match alphabet with
  | .standard => length % 4 = 0
  | .urlSafe => length = symbols

/-- The octets of the last group, which is at most four octets long. -/
def decodeLast (alphabet : Alphabet) (offset : Nat) (group : Octets) :
    Except DecodeError Octets := do
  let values ← lastBits alphabet offset 0 none group
  if group ≠ [] ∧ values.length < 2 then throw (.invalidLength (offset + values.length))
  if !paddingFits alphabet values.length group.length then throw .invalidPadding
  let unused := values.length * 6 % 8
  let n := values.foldl (fun n bits => n * 64 + bits) 0
  if n % (1 <<< unused) ≠ 0 then
    let place := values.length - 1
    throw (.invalidLastSymbol (group.getD place 0) (offset + place))
  return Octets.ofNat (values.length * 6 / 8) (n >>> unused)

/-- The bits of a symbol that stands at an offset. -/
def bitsAt (alphabet : Alphabet) (offset : Nat) (byte : UInt8) : Except DecodeError Nat :=
  match bits? alphabet byte with
  | some bits => .ok bits
  | none => .error (.invalidSymbol byte offset)

/-- Reads groups of four symbols up to the last one, from an offset on. -/
def decodeFrom (alphabet : Alphabet) (offset : Nat) : Octets → Except DecodeError Octets
  | a :: b :: c :: d :: e :: rest => do
    let p ← bitsAt alphabet offset a
    let q ← bitsAt alphabet (offset + 1) b
    let r ← bitsAt alphabet (offset + 2) c
    let s ← bitsAt alphabet (offset + 3) d
    let more ← decodeFrom alphabet (offset + 4) (e :: rest)
    return Octets.ofNat 3 (((p * 64 + q) * 64 + r) * 64 + s) ++ more
  | group => decodeLast alphabet offset group

/-- The octets that a text encodes. A single octet behind whole groups cannot be right; when it is
no symbol either, it is named before anything else. -/
def decode (alphabet : Alphabet) (text : Octets) : Except DecodeError Octets :=
  match text.getLast? with
  | some last =>
    if text.length % 4 = 1 ∧ last ≠ padding ∧ bits? alphabet last = none then
      .error (.invalidSymbol last (text.length - 1))
    else decodeFrom alphabet 0 text
  | none => decodeFrom alphabet 0 text

end Tollgate.Text.Base64
