import Tollgate.Dns.Name.Text
import Tollgate.Dns.Wire.Writer

/-!
# Discovery of the encrypted endpoints

Clients ask for the service bindings of `_dns.<server>` to learn which encrypted transports serve
their token. The gateway answers itself: DNS over HTTPS first, with the token in the path, and DNS
over TLS second, with the token as the leftmost label of the server name.
-/

namespace Tollgate.Dns

/-- Where a query carried its access token. -/
inductive TokenSource where
  /-- In the path of the request. -/
  | path
  /-- As the leftmost label of the host name. -/
  | host
  deriving DecidableEq, Repr

def discoveryLabel : Label := Octets.ofText "_dns"

/-- Whether the gateway is asked for its own endpoints. -/
def Question.isDiscovery (question : Question) : Bool :=
  question.type = RecordType.serviceBinding
    && question.name.labels.head?.any (Label.same discoveryLabel)

/-- The names of the two endpoints of a token. -/
structure Endpoints where
  https : Name
  tls : Name
  deriving DecidableEq, Repr

namespace Discovery

/-- How long, in seconds, the answers hold. -/
def ttl : Nat := 1

private def internetClass : Nat := 1

/-- The endpoints of a server for a token. A token from the path becomes the leftmost label of the
TLS endpoint, if it can be a label; a token from the host name already is, and the HTTPS endpoint is
found without it. -/
def endpoints? (idna : Text.Idna) (server : Name) (token : String) :
    TokenSource → Option Endpoints
  | .path => (server.prepend? idna token).map fun tls => ⟨server, tls⟩
  | .host =>
    let carriesToken := server.labels.head?.any (Label.same (Octets.ofText token))
    some ⟨if carriesToken then server.parent else server, server⟩

/-- The path template of DNS over HTTPS for a token. -/
def pathTemplate (token : String) : String := s!"/dns/{token}/\x7b?dns\x7d"

private def protocols (names : List String) : Nat × Octets :=
  (ServiceKey.protocols, (names.map fun name => Label.toWire (Octets.ofText name)).flatten)

private def bindingRecord (owner : Name) (priority : Nat) (target : Name)
    (params : List (Nat × Octets)) : Record :=
  ⟨owner, RecordType.serviceBinding, internetClass, ttl, .binding priority target params⟩

/-- The answer to a discovery question. There is none if the token cannot be a label. -/
def answer? (idna : Text.Idna) (request : Message) (question : Question) (token : String)
    (source : TokenSource) : Option Message := do
  let endpoints ← endpoints? idna question.name.parent token source
  let https := bindingRecord question.name 1 endpoints.https
    [protocols ["h3", "h2"], (ServiceKey.dohPath, Octets.ofText (pathTemplate token))]
  let tls := bindingRecord question.name 2 endpoints.tls [protocols ["dot"]]
  let answer := Message.answerTo request question ResponseCode.noError false
  return { answer with answers := [https, tls] }

end Discovery

end Tollgate.Dns
