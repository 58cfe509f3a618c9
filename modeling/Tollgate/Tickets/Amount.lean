import Tollgate.Text.Blank
import Tollgate.Text.Decimal
import Tollgate.Text.Split

/-!
# Amounts of money

Amounts are counted in cents and written in yuan with two decimals. What they buy is counted in MiB
for each yuan. Results that are no 64-bit integers are refused.
-/

namespace Tollgate.Tickets

/-- The text of an amount that is not negative. -/
def formatCents (cents : Int) : String :=
  s!"{cents.tdiv 100}.{Text.padded 2 (cents.tmod 100).natAbs}"

/-- A number, if it has 64 bits. -/
def checked (n : Int) : Option Int := if Text.fitsInt64 n then some n else none

private def utf8Length (text : List Char) : Nat := (String.ofList text).utf8ByteSize

/-- The amount that a text spells, with up to two decimals. -/
def parseCents (amount : String) : Option Int := do
  let text := Text.trim amount.toList
  let (whole, fraction) := (Text.cut '.' text).getD (text, [])
  if whole.isEmpty || 2 < utf8Length fraction then none
  let whole ← Text.int64? 10 whole
  let fraction ←
    match utf8Length fraction with
    | 0 => some 0
    | 1 => (Text.int64? 10 fraction).map (· * 10)
    | _ => Text.int64? 10 fraction
  if whole < 0 then none
  checked ((← checked (whole * 100)) + fraction)

def bytesPerMib : Int := 1024 * 1024

/-- The bytes that an amount buys. Every step has to stay within 64 bits. -/
def creditBytes (mibPerYuan cents : Int) : Option Int := do
  let perHundred ← checked (cents * mibPerYuan)
  let bytes ← checked (perHundred * bytesPerMib)
  return bytes.tdiv 100

end Tollgate.Tickets
