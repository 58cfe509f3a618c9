import Tollgate.Dns.Resolver
import Tollgate.Http.Message
import Tollgate.Text.Form
import Tollgate.Text.Percent

/-!
# DNS over HTTPS

Queries come as the `dns` parameter of a GET request, in unpadded base64url, or as the body of a
POST request. The access token is the segment behind `/dns/`, or on `/dns-query` the leftmost label
of the host. A parameter `noad` asks for blocked names to be answered as missing.
-/

namespace Tollgate.Dns.Doh

/-- The path of requests whose host carries the token. -/
def hostPath : String := "/dns-query"

def tokenPath : String := "/dns/"

def contentType : String := "application/dns-message"

/-- The access token in a path, if it is the path of a query. A segment that is no percent-encoded
text is the token itself. -/
def pathToken? (path : String) : Option String := do
  let rest ← Text.dropStart? tokenPath.toList path.toList
  let segment := Text.dropEndWhile (· = '/') rest
  if segment.isEmpty || segment.contains '/' then none
  let segment := String.ofList segment
  return (Text.Percent.decodeText? segment).getD segment

/-- The access token of a query, which may be missing, and where it was looked for; nothing for
requests that are no queries. -/
def token? (request : Http.Request) : Option (Option String × TokenSource) :=
  if request.uri.path = hostPath then some (request.host?.bind Http.leftmostLabel?, .host)
  else (pathToken? request.uri.path).map fun token => (some token, .path)

/-- The query in a parameter of a GET request. -/
def ofParameter (params : List (String × String)) : Except ResolveError Octets :=
  match Text.Form.last? "dns" params with
  | none => .error .parameterMissing
  | some value =>
    let symbols := Text.dropEndWhile (· = Text.Base64.padding) (Octets.ofText value)
    match Text.Base64.decode .urlSafe symbols with
    | .error error => .error (.notBase64 error)
    | .ok message => if maxMessageLength < message.length then .error .tooLarge else .ok message

/-- The query in the body of a POST request. -/
def ofBody (body : Octets) : Except ResolveError Octets :=
  if maxMessageLength < body.length then .error .tooLarge else .ok body

def errorResponse (error : ResolveError) : Http.Response :=
  match error.blame with
  | .internal => .plain error.status "Internal Server Error"
  | _ => .plain error.status error.message

/-- How long an answer may be kept. -/
def cacheControl (answer : Octets) : Http.Headers :=
  match (Message.ofWire? answer).bind (·.minTtl?) with
  | some ttl => [("cache-control", Octets.ofText s!"max-age={ttl}")]
  | none => []

def answerResponse (answer : Octets) : Http.Response :=
  ⟨200, ("content-type", Octets.ofText contentType) :: cacheControl answer, answer⟩

def parameters (request : Http.Request) : List (String × String) :=
  (request.uri.query.map Text.Form.pairs).getD []

/-- The query that a request carries; nothing for methods that carry none. -/
def message? (request : Http.Request) : Option (Except ResolveError Octets) :=
  match request.method with
  | "GET" => some (ofParameter (parameters request))
  | "POST" => some (ofBody request.body)
  | _ => none

/-- How a request ended. Nothing is answered when the price of an answer is out of range. -/
structure Served where
  response : Option Http.Response
  ledger : Ledger
  forwarded : Option Octets

/-- Serves a request that carries a token. `relayedFor` is the client that a trusted relay names. -/
def serve (resolver : Resolver) (recursor : Recursor) (request : Http.Request)
    (token : Option String) (source : TokenSource) (peer : Address) (relayedFor : Option String)
    (now : Instant) (ledger : Ledger) : Served :=
  match message? request with
  | none => ⟨some (.plain 405 "Method Not Allowed"), ledger, none⟩
  | some (.error error) => ⟨some (errorResponse error), ledger, none⟩
  | some (.ok message) =>
    let blockAds := (parameters request).any (·.1 = "noad")
    let query : Query := { token, source, message, peer, relayedFor, blockAds }
    let resolution := resolver.resolve recursor query now ledger
    let response :=
      match resolution.result with
      | .ok answer => some (answerResponse answer)
      | .error .priceOutOfRange => none
      | .error error => some (errorResponse error)
    ⟨response, resolution.ledger, resolution.forwarded⟩

end Tollgate.Dns.Doh
