import Tollgate.Http.Uri

/-!
# Requests and responses

Header names are in lower case; of a header that repeats, the first one counts. A header value is a
string of octets, and is readable as text only if all of them are visible ASCII, blanks or tabs.
-/

namespace Tollgate.Http

/-- Headers in order, with names in lower case. -/
abbrev Headers := List (String × Octets)

namespace Headers

/-- The first value of a header. -/
def find? (headers : Headers) (name : String) : Option Octets := headers.lookup name

private def isVisible (byte : UInt8) : Bool := (0x20 ≤ byte && byte < 0x7F) || byte = 0x09

/-- The first value of a header as text, if it is readable. -/
def text? (headers : Headers) (name : String) : Option String := do
  let value ← headers.find? name
  if value.all isVisible then value.text? else none

theorem text?_of_visible {headers : Headers} {name : String} {value : Octets}
    (found : headers.find? name = some value)
    (visible : ∀ byte ∈ value, 0x20 ≤ byte ∧ byte < 0x7F) :
    headers.text? name = value.text? := by
  have readable : value.all isVisible = true := by
    rw [List.all_eq_true]
    intro byte mem
    simp [isVisible, visible byte mem]
  rw [text?, found, Option.bind_eq_bind, Option.bind_some, if_pos readable]

/-- Gives a header the only value that it then has. -/
def set (headers : Headers) (name : String) (value : Octets) : Headers :=
  headers.filter (·.1 ≠ name) ++ [(name, value)]

end Headers

/-- Characters of methods and header names. -/
def isTokenChar (c : Char) : Bool := c.isAlphanum || "!#$%&'*+-.^_`|~".toList.contains c

def isMethod (text : String) : Bool := !text.isEmpty && text.toList.all isTokenChar

def maxHeaderNameLength : Nat := 65535

/-- The header name that a text spells, in lower case. -/
def headerName? (text : String) : Option String :=
  let fits := !text.isEmpty && text.utf8ByteSize ≤ maxHeaderNameLength
  if !fits || !text.toList.all isTokenChar then none
  else some (String.ofList (text.toList.map Char.toLower))

/-- Whether octets are a header value: no control characters but tabs. -/
def isHeaderValue (value : Octets) : Bool :=
  value.all fun byte => (0x20 ≤ byte && byte ≠ 0x7F) || byte = 0x09

/-- A request with its whole body. -/
structure Request where
  method : String
  uri : Uri
  /-- Whether the request came on an HTTP/2 stream. -/
  isHttp2 : Bool
  headers : Headers
  /-- The protocol that an extended CONNECT asks for. -/
  protocol : Option String
  body : Octets
  deriving DecidableEq, Repr

/-- A response with its whole body. -/
structure Response where
  status : Nat
  headers : Headers
  body : Octets
  deriving DecidableEq, Repr

namespace Response

def empty (status : Nat) : Response := ⟨status, [], []⟩

def ofType (contentType : String) (status : Nat) (body : Octets) : Response :=
  ⟨status, [("content-type", Octets.ofText contentType)], body⟩

def plain (status : Nat) (message : String) : Response :=
  ofType "text/plain" status (Octets.ofText message)

end Response

/-- The first label of a host name; a port does not belong to it. -/
def leftmostLabel? (host : String) : Option String :=
  match Text.before '.' (Text.before ':' host.toList) with
  | [] => none
  | label => some (String.ofList label)

/-- The host that a request is for: the one in its target, or else the one in its header. -/
def Request.host? (request : Request) : Option String :=
  request.uri.host? <|> request.headers.text? "host"

end Tollgate.Http
