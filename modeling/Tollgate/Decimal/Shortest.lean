/-!
# The shortest decimal of a binary fraction

A finite binary floating-point number stands for all reals that round to it. `shortest` finds the
decimal with the fewest digits among them, and of those the one nearest to the number.
-/

namespace Tollgate.Decimal

/-- A decimal: digits that spell a whole number, times a power of ten. -/
structure Scientific where
  digits : Nat
  exponent : Int
  deriving DecidableEq, Repr

/-- A positive real as a fraction. -/
private structure Fraction where
  num : Nat
  den : Nat

private def tenTo (n : Nat) : Nat := Nat.pow 10 n

/-- The greatest `e` with `10 ^ e` at most the value, looked for from a guess downwards. -/
private def magnitude (value : Fraction) : Nat → Int → Int
  | 0, guess => guess
  | steps + 1, guess =>
    let fits := if 0 ≤ guess then tenTo guess.toNat * value.den ≤ value.num
      else value.den ≤ value.num * tenTo (-guess).toNat
    if fits then guess else magnitude value steps (guess - 1)

/-- The reals that round to a number `center / den`, by their ends. -/
private structure Interval where
  low : Nat
  center : Nat
  high : Nat
  den : Nat
  /-- Whether the ends belong to it. -/
  closed : Bool

private def Interval.contains (interval : Interval) (num den : Nat) : Bool :=
  let n := num * interval.den
  if interval.closed then interval.low * den ≤ n && n ≤ interval.high * den
  else interval.low * den < n && n < interval.high * den

/-- The neighbours of the center on the grid of multiples of `10 ^ exponent` that lie in the
interval, the nearer first. -/
private def nearest? (interval : Interval) (exponent : Int) : Option Nat :=
  let scaleNum := if 0 ≤ exponent then tenTo exponent.toNat else 1
  let scaleDen := if 0 ≤ exponent then 1 else tenTo (-exponent).toNat
  let below := interval.center * scaleDen / (interval.den * scaleNum)
  let remainder := interval.center * scaleDen - below * (interval.den * scaleNum)
  let upFirst := interval.den * scaleNum < 2 * remainder
    || (interval.den * scaleNum = 2 * remainder && below % 2 = 1)
  let candidates := if upFirst then [below + 1, below] else [below, below + 1]
  candidates.find? fun n => interval.contains (n * scaleNum) scaleDen

private def search (interval : Interval) (top : Int) : (count left : Nat) → Scientific
  | _, 0 => ⟨0, 0⟩
  | count, left + 1 =>
    let exponent := top - count
    match nearest? interval exponent with
    | some digits => ⟨digits, exponent⟩
    | none => search interval top (count + 1) left

private def stripZeros : Nat → Scientific → Scientific
  | 0, value => value
  | steps + 1, value =>
    if value.digits % 10 = 0 then stripZeros steps ⟨value.digits / 10, value.exponent + 1⟩
    else value

/-- The shortest decimal for `mantissa * 2 ^ exponent`. `tight` says that the next number below is
only half as far away as the next above. -/
def shortestOf (mantissa : Nat) (exponent : Int) (tight : Bool) : Scientific :=
  let shift := exponent - 2
  let scale := 1 <<< shift.toNat
  let interval : Interval := {
    low := (4 * mantissa - (if tight then 1 else 2)) * scale
    center := 4 * mantissa * scale
    high := (4 * mantissa + 2) * scale
    den := 1 <<< (-shift).toNat
    closed := mantissa % 2 == 0 }
  let guess := ((mantissa.log2 : Int) + exponent) * 30103 / 100000 + 1
  let top := magnitude ⟨interval.center, interval.den⟩ 5 guess
  stripZeros 20 (search interval top 0 20)

/-- The bit of a mantissa that is not written, as it is always set. -/
private def implicitBit : Nat := 0x10000000000000

/-- The shortest decimal for the size of a finite number that is not zero. -/
def shortest (x : Float) : Scientific :=
  let bits := x.toBits.toNat
  let fraction := bits % implicitBit
  let exponent : Nat := bits / implicitBit % 2048
  if exponent = 0 then shortestOf fraction (-1074) false
  else shortestOf (fraction + implicitBit) ((exponent : Int) - 1075) (fraction = 0 && 1 < exponent)

end Tollgate.Decimal
