import Tollgate.Text.Base64
import Tollgate.Text.Split
import Tollgate.Text.Utf8

/-!
# PEM files

A PEM file holds sections of base64 between a line that begins and a line that ends them. Text
outside of sections is skipped, and so are sections whose label nobody knows.
-/

namespace Tollgate.Tls.Pem

structure Entry where
  label : Octets
  content : Octets
  deriving DecidableEq, Repr

inductive Base64Fault where
  | invalidCharacter (byte : UInt8)
  | prematurePadding
  | invalidTrailingPadding
  deriving DecidableEq, Repr

/-- What is wrong with a section. -/
inductive Fault where
  | endMissing (label : Octets)
  | illegalStart (line : Octets)
  | base64 (fault : Base64Fault)
  deriving DecidableEq, Repr

/-- A text between quotes, with line breaks and quotes escaped. -/
private def shown (bytes : Octets) : String :=
  let escape : Char → List Char
    | '"' => ['\\', '"']
    | '\\' => ['\\', '\\']
    | '\n' => ['\\', 'n']
    | '\r' => ['\\', 'r']
    | '\t' => ['\\', 't']
    | c => [c]
  "\"" ++ String.ofList ((Text.Utf8.decodeLossy bytes).flatMap escape) ++ "\""

/-- What is wrong with a section, in words. -/
def Fault.message : Fault → String
  | .endMissing label => s!"section end {shown label} missing"
  | .illegalStart line => s!"illegal section start: {shown line}"
  | .base64 (.invalidCharacter byte) => s!"InvalidCharacter({byte})"
  | .base64 .prematurePadding => "PrematurePadding"
  | .base64 .invalidTrailingPadding => "InvalidTrailingPadding"

/-! ## Base64 -/

private def isBlank (byte : UInt8) : Bool :=
  byte = 0x20 || byte = 0x09 || byte = 0x0A || byte = 0x0D

/-- The octets that symbols spell; bits that fill no octet do not count. -/
private def octetsOf : List Nat → Octets
  | a :: b :: c :: d :: rest => Octets.ofNat 3 (((a * 64 + b) * 64 + c) * 64 + d) ++ octetsOf rest
  | [a, b, c] => Octets.ofNat 2 (((a * 64 + b) * 64 + c) / 4)
  | [a, b] => Octets.ofNat 1 ((a * 64 + b) / 16)
  | _ => []

/-- Reads base64 with blanks in it. Padding may be missing, but not be wrong. -/
def decode (text : Octets) : Except Base64Fault Octets := do
  let solid := text.filter (!isBlank ·)
  let symbols := (solid.reverse.dropWhile (· = Text.Base64.padding)).reverse
  let values ← symbols.mapM fun byte =>
    match Text.Base64.bits? .standard byte with
    | some bits => .ok bits
    | none =>
      .error (if byte = Text.Base64.padding then .prematurePadding else .invalidCharacter byte)
  let pads := solid.length - symbols.length
  let extra := symbols.length % 4
  if pads = 0 && extra ≠ 1 || extra = 2 && pads = 2 || extra = 3 && pads = 1 then
    return octetsOf values
  else throw .invalidTrailingPadding

/-! ## Sections -/

/-- The lines of a file, each with the carriage return or line feed at its end. -/
def lines : Octets → List Octets
  | [] => []
  | byte :: rest =>
    if byte = 0x0A || byte = 0x0D then [byte] :: lines rest
    else
      match lines rest with
      | [] => [[byte]]
      | line :: more => (byte :: line) :: more

/-- What stands in front of the label that a line begins, and that a line ends. -/
private def beginMark : Octets := Octets.ofText "-----BEGIN "

@[inherit_doc beginMark]
private def endMark : Octets := Octets.ofText "-----END "

private def isDash (byte : UInt8) : Bool := byte = 0x2D

/-- The label of the section that a line begins. Five dashes stand behind it, and blanks may stand
between and behind them. -/
private def begunBy (line : Octets) : Option (Except Fault Octets) :=
  if beginMark.isPrefixOf line then
    let close := (line.reverse.takeWhile fun byte =>
      isDash byte || byte = 0x20 || byte = 0x0A || byte = 0x0D).reverse.dropWhile (!isDash ·)
    if (close.filter isDash).length = 5 then
      some (.ok ((line.take (line.length - close.length)).drop beginMark.length))
    else some (.error (.illegalStart line))
  else none

/-- Whether a line ends the section of a label. -/
private def ends (label line : Octets) : Bool :=
  (endMark ++ label ++ List.replicate 5 0x2D).isPrefixOf line

def knownLabels : List Octets :=
  ["CERTIFICATE", "PUBLIC KEY", "RSA PRIVATE KEY", "PRIVATE KEY", "EC PRIVATE KEY", "X509 CRL",
    "CERTIFICATE REQUEST", "ECHCONFIG"].map Octets.ofText

/-- Takes the next section off some lines, with what was read of it so far. -/
private def next (current : Option Octets) (text : Octets) :
    List Octets → Except Fault (Option Entry) × List Octets
  | [] =>
    (match current with
      | some label => .error (.endMissing label)
      | none => .ok none, [])
  | line :: rest =>
    match begunBy line with
    | some (.error fault) => (.error fault, rest)
    | some (.ok label) => next (some label) text rest
    | none =>
      match current with
      | none => next none text rest
      | some label =>
        if ends label line then
          if knownLabels.contains label then
            match decode text with
            | .ok content => (.ok (some ⟨label, content⟩), rest)
            | .error fault => (.error (.base64 fault), rest)
          else next none [] rest
        else next current (text ++ line) rest

/-- All sections of a file and their faults, in order; `steps` is more than there are lines. -/
private def collect : (steps : Nat) → List Octets → List (Except Fault Entry)
  | 0, _ => []
  | steps + 1, lines =>
    match next none [] lines with
    | (.ok none, _) => []
    | (.ok (some found), rest) => .ok found :: collect steps rest
    | (.error fault, rest) => .error fault :: collect steps rest

/-- All sections of a file, and what is wrong where one cannot be read. -/
def entries (file : Octets) : List (Except Fault Entry) :=
  let all := lines file
  collect (all.length + 1) all

end Tollgate.Tls.Pem
