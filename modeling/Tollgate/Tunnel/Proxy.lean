import Tollgate.Ledger.Ledger
import Tollgate.Tunnel.Credentials
import Tollgate.Tunnel.Target

/-!
# Admission to tunnels

A tunnel is opened for an active token, to a target that is well-formed and can be reached. On
HTTP/1.1 the connection itself becomes the tunnel, on HTTP/2 the two bodies of the exchange.
-/

namespace Tollgate.Tunnel

/-- The token and target of a request that may have a tunnel, or the response that refuses it. -/
def admission (request : Http.Request) (now : Instant) (ledger : Ledger) :
    Except Http.Response (String × Target) :=
  match proxyToken? request.headers with
  | none => .error credentialsRequired
  | some token =>
    match ledger.isActive token now with
    | .error _ => .error (.empty 500)
    | .ok false => .error credentialsRequired
    | .ok true =>
      match targetOf request with
      | .error _ => .error (.empty 400)
      | .ok target => .ok (token, target)

private def capsuleProtocol : String × Octets := ("capsule-protocol", Octets.ofText "?1")

def opened (isHttp2 : Bool) : Target → Http.Response
  | .stream _ => .empty 200
  | .datagram .. =>
    if isHttp2 then ⟨200, [capsuleProtocol], []⟩
    else
      ⟨101, [("connection", Octets.ofText "upgrade"),
        ("upgrade", Octets.ofText datagramProtocol), capsuleProtocol], []⟩

/-- How a request for a tunnel ended. -/
structure Opening where
  response : Http.Response
  /-- The target that was dialled. -/
  dialled : Option Target
  /-- The token that pays for the tunnel, if one was opened. -/
  payer : Option String

/-- Opens a tunnel, given which targets can be reached. -/
def openFor (reaches : Target → Bool) (request : Http.Request) (now : Instant) (ledger : Ledger) :
    Opening :=
  match admission request now ledger with
  | .error response => ⟨response, none, none⟩
  | .ok (token, target) =>
    if reaches target then ⟨opened request.isHttp2 target, some target, some token⟩
    else ⟨.empty 502, some target, none⟩

end Tollgate.Tunnel
