import Tollgate.Octets
import Tollgate.Text.Decimal

/-!
# Percent encoding

A percent sign and two hexadecimal digits stand for an octet. A percent sign without two digits
behind it stands for itself, so every text has a decoding. The encoder escapes all octets but
letters, digits, `-`, `_`, `.` and `~`.
-/

namespace Tollgate.Text.Percent

private def percentSign : UInt8 := 0x25

/-- The value of an octet that is a hexadecimal digit. -/
def hexValue? (byte : UInt8) : Option Nat :=
  if byte.toNat < 0x80 then hexDigit? (Char.ofNat byte.toNat) else none

/-- The octets that a percent-encoded text stands for. -/
def decode : Octets → Octets
  | 0x25 :: high :: low :: rest =>
    match hexValue? high, hexValue? low with
    | some h, some l => (h * 16 + l).toUInt8 :: decode rest
    | _, _ => 0x25 :: decode (high :: low :: rest)
  | byte :: rest => byte :: decode rest
  | [] => []

/-- The text that a percent-encoded text stands for, if its octets are UTF-8. -/
def decodeText? (text : String) : Option String := (decode (Octets.ofText text)).text?

/-- Octets that the encoder leaves as they are. -/
def isUnreserved (byte : UInt8) : Bool :=
  (0x30 ≤ byte && byte ≤ 0x39) || (0x41 ≤ byte && byte ≤ 0x5A) || (0x61 ≤ byte && byte ≤ 0x7A)
    || byte = 0x2D || byte = 0x2E || byte = 0x5F || byte = 0x7E

/-- The upper-case hexadecimal digit of a value below sixteen. -/
def hexOctet (n : Nat) : UInt8 := if n < 10 then (0x30 + n).toUInt8 else (0x41 + (n - 10)).toUInt8

/-- Writes octets so that only unreserved ones appear as themselves. -/
def encode (bytes : Octets) : Octets :=
  bytes.flatMap fun byte =>
    if isUnreserved byte then [byte]
    else [percentSign, hexOctet (byte.toNat / 16), hexOctet (byte.toNat % 16)]

end Tollgate.Text.Percent
