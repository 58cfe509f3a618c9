import Tollgate.Http.Head
import Tollgate.Text.Blank

/-!
# Where requests end

The headers of a request say how long its body is and whether another request may follow on the same
connection. A body has a length, or it comes in chunks with a length each.
-/

namespace Tollgate.Http

inductive BodyLength where
  | octets (count : Nat)
  | chunked
  deriving DecidableEq, Repr

/-- What the headers of a request say about its connection. -/
structure Framing where
  length : BodyLength
  /-- Whether another request may follow. -/
  keepAlive : Bool
  /-- Whether the client waits for a sign before it sends the body. -/
  expectsContinue : Bool
  deriving DecidableEq, Repr

namespace Framing

private def lower (text : List Char) : String := String.ofList (text.map Char.toLower)

/-- The elements of a list in a header, in lower case. -/
private def elements (value : Octets) : List String :=
  match Headers.text? [("", value)] "" with
  | some text => (Text.split ',' text.toList).map fun part => lower (Text.trim part)
  | none => []

/-- A length in digits. The two greatest 64-bit numbers are no lengths. -/
private def length? (value : Octets) : Except HeadStop Nat :=
  match value.text?.bind fun text => Text.natural? 10 text.toList with
  | some n =>
    if Text.maxUInt64 < n then .error (.refused 400)
    else if Text.maxUInt64 - 2 < n then .error (.refused 431)
    else .ok n
  | none => .error (.refused 400)

/-- What the headers so far say. -/
private structure Seen where
  keepAlive : Bool
  encoded : Option Bool := none
  length : Option Nat := none
  expectsContinue : Bool := false

private def see (isHttp10 : Bool) (seen : Seen) (header : String × Octets) :
    Except HeadStop Seen := do
  let (name, value) := header
  match name with
  | "transfer-encoding" =>
    if isHttp10 then throw (.refused 400)
    return { seen with encoded := some ((elements value).getLast? = some "chunked") }
  | "content-length" =>
    if seen.encoded.isSome then return seen
    let n ← length? value
    match seen.length with
    | some other => if other = n then return seen else throw (.refused 400)
    | none => return { seen with length := some n }
  | "connection" =>
    let words := elements value
    return { seen with
      keepAlive := if seen.keepAlive then !words.contains "close" else words.contains "keep-alive" }
  | "expect" =>
    let expectation := (value.text?.map fun text => lower text.toList).getD ""
    return { seen with expectsContinue := expectation = "100-continue" }
  | _ => return seen

/-- What the head of a request says. An encoding of the body that does not end in chunks is refused,
and so are lengths that differ. -/
def ofHead (head : Head) : Except HeadStop Framing := do
  let seen ← head.headers.foldlM (see head.isHttp10) { keepAlive := !head.isHttp10 }
  match seen.encoded with
  | some true => return ⟨.chunked, seen.keepAlive, seen.expectsContinue⟩
  | some false => throw (.refused 400)
  | none => return ⟨.octets (seen.length.getD 0), seen.keepAlive, seen.expectsContinue⟩

end Framing

/-! ## Bodies -/

inductive BodyRead where
  | incomplete
  | complete (body rest : Octets)
  | malformed (reason : String)
  deriving DecidableEq, Repr

namespace Chunked

/-- The line in front of a chunk: its length and what follows the line. -/
private inductive SizeLine where
  | incomplete
  | found (size : Nat) (rest : Octets)
  | malformed (reason : String)

private def hexValue? (byte : UInt8) : Option Nat := Text.hexDigit? (Char.ofNat byte.toNat)

/-- Reads the end of the line in front of a chunk. -/
private def lineFeed (size : Nat) : Octets → SizeLine
  | [] => .incomplete
  | 0x0A :: rest => .found size rest
  | _ => .malformed "Invalid chunk size LF"

/-- Reads what may stand behind the length of a chunk, which is skipped. -/
private def extension (size : Nat) : Octets → SizeLine
  | [] => .incomplete
  | 0x0D :: rest => lineFeed size rest
  | 0x0A :: _ => .malformed "invalid chunk extension contains newline"
  | _ :: rest => extension size rest

/-- Reads blanks behind the length of a chunk. -/
private def blanks (size : Nat) : Octets → SizeLine
  | [] => .incomplete
  | 0x20 :: rest | 0x09 :: rest => blanks size rest
  | 0x3B :: rest => extension size rest
  | 0x0D :: rest => lineFeed size rest
  | _ => .malformed "Invalid chunk size linear white space"

private def sizeLine (line : Octets) : SizeLine :=
  let digits := line.takeWhile fun byte => (hexValue? byte).isSome
  let size := digits.foldl (fun n byte => n * 16 + (hexValue? byte).getD 0) 0
  if Text.maxUInt64 < size then .malformed "invalid chunk size: overflow"
  else
    match line.drop digits.length with
    | [] => .incomplete
    | byte :: rest =>
      if digits.isEmpty then .malformed "Invalid chunk size line: missing size digit"
      else if byte = 0x20 || byte = 0x09 then blanks size rest
      else if byte = 0x3B then extension size rest
      else if byte = 0x0D then lineFeed size rest
      else .malformed "Invalid chunk size line: Invalid Size"

/-- Skips the lines behind the last chunk, up to an empty one. -/
private def trailer : (steps : Nat) → Octets → BodyRead
  | 0, _ => .incomplete
  | _ + 1, [] => .incomplete
  | _ + 1, [0x0D] => .incomplete
  | _ + 1, 0x0D :: 0x0A :: rest => .complete [] rest
  | _ + 1, 0x0D :: _ => .malformed "Invalid chunk end LF"
  | steps + 1, line =>
    match line.dropWhile (· ≠ 0x0D) with
    | 0x0D :: 0x0A :: rest => trailer steps rest
    | [] | [_] => .incomplete
    | _ => .malformed "Invalid trailer end LF"

/-- Reads a body in chunks, of which there are `steps` at most. -/
private def chunks : (steps : Nat) → Octets → BodyRead
  | 0, _ => .incomplete
  | steps + 1, stream =>
    match sizeLine stream with
    | .incomplete => .incomplete
    | .malformed reason => .malformed reason
    | .found 0 rest => trailer (rest.length + 1) rest
    | .found size rest =>
      match Octets.take? size rest with
      | none => .incomplete
      | some (chunk, rest) =>
        match rest with
        | [] | [0x0D] => .incomplete
        | 0x0D :: 0x0A :: rest =>
          match chunks steps rest with
          | .complete body rest => .complete (chunk ++ body) rest
          | other => other
        | 0x0D :: _ => .malformed "Invalid chunk body LF"
        | _ => .malformed "Invalid chunk body CR"

def read (stream : Octets) : BodyRead := chunks (stream.length + 1) stream

end Chunked

def BodyLength.read (length : BodyLength) (stream : Octets) : BodyRead :=
  match length with
  | .octets count =>
    match Octets.take? count stream with
    | some (body, rest) => .complete body rest
    | none => .incomplete
  | .chunked => Chunked.read stream

end Tollgate.Http
