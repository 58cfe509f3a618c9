/-!
# Decimal numbers in text

Whole numbers are read from ASCII digits alone. A reader of bounded numbers takes one sign in front,
any number of leading zeros, and refuses what its range does not hold.
-/

namespace Tollgate.Text

def digit? (c : Char) : Option Nat := if c.isDigit then some (c.toNat - '0'.toNat) else none

/-- The value of a hexadecimal digit in either case. -/
def hexDigit? (c : Char) : Option Nat :=
  if c.isDigit then some (c.toNat - '0'.toNat)
  else if 'a' ≤ c ∧ c ≤ 'f' then some (c.toNat - 'a'.toNat + 10)
  else if 'A' ≤ c ∧ c ≤ 'F' then some (c.toNat - 'A'.toNat + 10)
  else none

/-- The value of a digit of a base up to sixteen. -/
def digitOf? (base : Nat) (c : Char) : Option Nat := (hexDigit? c).filter (· < base)

/-- The number that one or more digits of a base spell. -/
def natural? (base : Nat) : List Char → Option Nat
  | [] => none
  | digits => digits.foldlM (fun value c => (digitOf? base c).map (value * base + ·)) 0

/-- A number without sign or with a plus sign, up to `max`. -/
def bounded? (max : Nat) (text : List Char) : Option Nat :=
  (natural? 10 (match text with | '+' :: digits => digits | digits => digits)).filter (· ≤ max)

/-- The least and the greatest 64-bit integer. -/
def minInt64 : Int := -0x8000000000000000

@[inherit_doc minInt64]
def maxInt64 : Int := 0x7FFFFFFFFFFFFFFF

/-- The greatest 64-bit number without a sign. -/
def maxUInt64 : Nat := 0xFFFFFFFFFFFFFFFF

def fitsInt64 (n : Int) : Bool := minInt64 ≤ n && n ≤ maxInt64

theorem fitsInt64_iff {n : Int} : fitsInt64 n = true ↔ minInt64 ≤ n ∧ n ≤ maxInt64 := by
  simp [fitsInt64]

/-- A 64-bit integer in a base, with at most one sign. -/
def int64? (base : Nat) (text : List Char) : Option Int :=
  match text with
  | '-' :: digits => ((natural? base digits).map fun n => -(n : Int)).filter fitsInt64
  | '+' :: digits => ((natural? base digits).map fun n => (n : Int)).filter fitsInt64
  | digits => ((natural? base digits).map fun n => (n : Int)).filter fitsInt64

/-- Digits written to a width, with zeros in front. -/
def padded (width n : Nat) : String :=
  let digits := toString n
  String.ofList (List.replicate (width - digits.length) '0') ++ digits

end Tollgate.Text
