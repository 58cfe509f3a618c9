import Tollgate.Http.Message
import Tollgate.Text.Blank
import Tollgate.Text.Percent

/-!
# Tunnel targets

A stream tunnel goes to the authority of a CONNECT request, which has to have a port. A datagram
tunnel goes to the host and port in the path `/.well-known/masque/udp/{host}/{port}/`, where the
host is percent-encoded.
-/

namespace Tollgate.Tunnel

def datagramProtocol : String := "connect-udp"

inductive Target where
  | stream (authority : String)
  | datagram (host : String) (port : Nat)
  deriving DecidableEq, Repr

inductive TargetError where
  | malformed (target : String)
  | noPort (authority : String)
  deriving DecidableEq, Repr

def TargetError.message : TargetError → String
  | .malformed target => s!"Invalid tunnel target: {target}"
  | .noPort authority => s!"Invalid tunnel target: {authority} has no port"

namespace Target

def datagramPath : String := "/.well-known/masque/udp/"

def hostAndPort? (path : String) : Option (String × Nat) := do
  let rest ← Text.dropStart? datagramPath.toList path.toList
  match Text.split '/' (Text.dropEndWhile (· = '/') rest) with
  | [host, port] =>
    if host.isEmpty then none
    let host ← Text.Percent.decodeText? (String.ofList host)
    let port ← Text.bounded? 65535 port
    if port = 0 then none else some (host, port)
  | _ => none

def ofPath (path : String) : Except TargetError Target :=
  match hostAndPort? path with
  | some (host, port) => .ok (.datagram host port)
  | none => .error (.malformed path)

def ofUri (uri : Http.Uri) : Except TargetError Target :=
  match uri.authority with
  | none => .error (.malformed uri.text)
  | some authority =>
    if (Http.Uri.portOf? authority).isSome then .ok (.stream authority)
    else .error (.noPort authority)

end Target

private def sameAsciiText (a b : String) : Bool :=
  a.toList.map Char.toLower = b.toList.map Char.toLower

/-- Whether a request asks for a datagram tunnel, by an upgrade or by an extended CONNECT. -/
def asksForDatagrams (request : Http.Request) : Bool :=
  (request.headers.text? "upgrade").any (sameAsciiText datagramProtocol)
    || (request.method = "CONNECT" && request.protocol.any (sameAsciiText datagramProtocol))

def asksForTunnel (request : Http.Request) : Bool :=
  request.method = "CONNECT" || asksForDatagrams request

def targetOf (request : Http.Request) : Except TargetError Target :=
  if asksForDatagrams request then Target.ofPath request.uri.path else Target.ofUri request.uri

end Tollgate.Tunnel
