import Tollgate.Decimal.Shortest

/-!
# Numbers in JSON

Whole numbers of 64 bits are exact, and all others are binary floating-point numbers. These are
shown with the fewest digits that read back: with a point from a hundred-thousandth up to ten to the
sixteenth, and with an exponent beyond.
-/

namespace Tollgate.Json

inductive Number where
  | unsigned (n : Nat)
  | signed (n : Int)
  | float (x : Float)

namespace Number

private def zeros (n : Nat) : String := String.ofList (List.replicate n '0')

private def split (digits : String) (count : Nat) : String :=
  String.ofList (digits.toList.take count) ++ "." ++ String.ofList (digits.toList.drop count)

def scientificText (value : Decimal.Scientific) : String :=
  let digits := toString value.digits
  let point := (digits.length : Int) + value.exponent
  if 0 ≤ value.exponent ∧ point ≤ 16 then digits ++ zeros value.exponent.toNat ++ ".0"
  else if 0 < point ∧ point ≤ 16 then split digits point.toNat
  else if -5 < point ∧ point ≤ 0 then "0." ++ zeros (-point).toNat ++ digits
  else
    let mantissa := if digits.length = 1 then digits else split digits 1
    mantissa ++ "e" ++ toString (point - 1)

def floatText (x : Float) : String :=
  let sign := if x.toBits ≥ 0x8000000000000000 then "-" else ""
  sign ++ (if x == 0.0 then "0.0" else scientificText (Decimal.shortest x))

end Number

end Tollgate.Json
