import Tollgate.Http.Message

/-!
# Heads of HTTP/1 requests

A head is a request line, a line for each header and an empty line. It is read as far as it has
come: what is there may be the start of a head, or may already be wrong, and then there is a status
for the refusal.
-/

namespace Tollgate.Http

structure Head where
  method : String
  uri : Uri
  /-- Whether the client speaks HTTP/1.0 only. -/
  isHttp10 : Bool
  headers : Headers
  deriving DecidableEq, Repr

/-- Why no head can be read. -/
inductive HeadStop where
  /-- More has to come. -/
  | incomplete
  | refused (status : Nat)
  deriving DecidableEq, Repr

namespace Head

/-- The most headers that a request may have. -/
def maxHeaders : Nat := 100

/-- How long the start of a head may be. -/
def maxLength : Nat := 417792

/-- Reads octets, or says why it stops. -/
abbrev Reader := StateT Octets (Except HeadStop)

private def malformed {α : Type} : Reader α := throw (.refused 400)

private def incomplete {α : Type} : Reader α := throw .incomplete

private def isTokenByte (byte : UInt8) : Bool := isTokenChar (Char.ofNat byte.toNat)

private def textOf (bytes : Octets) : String :=
  String.ofList (bytes.map fun byte => Char.ofNat byte.toNat)

private def run (p : UInt8 → Bool) : Reader Octets := do
  let text ← get
  set (text.dropWhile p)
  return text.takeWhile p

/-- Takes an octet that has to come next. -/
private def expect (byte : UInt8) : Reader Unit := do
  match ← get with
  | [] => incomplete
  | next :: rest => if next = byte then set rest else malformed

/-- Takes a line break, with or without a carriage return. -/
private def newline : Reader Unit := do
  match ← get with
  | 0x0D :: rest =>
    set rest
    expect 0x0A
  | _ => expect 0x0A

private def emptyLines : (steps : Nat) → Reader Unit
  | 0 => incomplete
  | steps + 1 => do
    match ← get with
    | 0x0D :: _ | 0x0A :: _ =>
      newline
      emptyLines steps
    | _ => return

private def methodName : Reader String := do
  let name ← run isTokenByte
  if (← get).isEmpty then incomplete
  if name.isEmpty then malformed
  expect 0x20
  return textOf name

/-- Takes a request target without reading it. -/
private def target : Reader Octets := do
  let text ← run fun byte => 0x20 < byte && byte ≠ 0x7F
  expect 0x20
  return text

/-- Takes the version, and says whether it is 1.0. -/
private def version : Reader Bool := do
  let text ← get
  let start := Octets.ofText "HTTP/1."
  let digit := text[7]?
  if start.isPrefixOf text then
    if digit = none then incomplete
    if digit ≠ some 0x30 && digit ≠ some 0x31 then malformed
    set (text.drop 8)
    return digit = some 0x30
  else if text.isPrefixOf start then incomplete
  else malformed

private def isBlank (byte : UInt8) : Bool := byte = 0x20 || byte = 0x09

private def isValueByte (byte : UInt8) : Bool := byte = 0x09 || (0x20 ≤ byte && byte ≠ 0x7F)

private def header : Reader (String × Octets) := do
  let name ← run isTokenByte
  if (← get).isEmpty then incomplete
  if name.isEmpty then malformed
  expect 0x3A
  let _ ← run isBlank
  let value ← run isValueByte
  newline
  let trimmed := (value.reverse.dropWhile isBlank).reverse
  return (String.ofList ((textOf name).toList.map Char.toLower), trimmed)

/-- Takes the empty line behind the headers, if it comes next. -/
private def headersEnd : Reader Bool := do
  match ← get with
  | 0x0D :: _ | 0x0A :: _ =>
    newline
    return true
  | _ => return false

/-- Takes headers and the empty line behind them. -/
private def headerLines : (room : Nat) → Reader Headers
  | 0 => do
    if ← headersEnd then return []
    let _ ← header
    throw (.refused 431)
  | room + 1 => do
    if ← headersEnd then return []
    let first ← header
    return first :: (← headerLines room)

private def head : Reader Head := do
  emptyLines ((← get).length + 1)
  let method ← methodName
  let target ← target
  let isHttp10 ← version
  newline
  let headers ← headerLines maxHeaders
  if Uri.maxLength < target.length then throw (.refused 414)
  match target.text?.bind Uri.ofText? with
  | some uri => return ⟨method, uri, isHttp10, headers⟩
  | none => malformed

/-- Reads the head at the start of a stream, and what follows it. -/
def read (stream : Octets) : Except HeadStop (Head × Octets) :=
  match StateT.run head stream with
  | .error .incomplete => .error (if maxLength ≤ stream.length then .refused 431 else .incomplete)
  | found => found

end Head

end Tollgate.Http
