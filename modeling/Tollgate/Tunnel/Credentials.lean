import Tollgate.Http.Message
import Tollgate.Text.Base64
import Tollgate.Text.Blank

/-!
# Proxy credentials

Tunnel clients authenticate with basic credentials. The user name is the access token, and the
password does not matter.
-/

namespace Tollgate.Tunnel

/-- The realm that clients are asked to authenticate for. -/
def realm : String := "zns"

def tokenOfCredentials? (value : String) : Option String := do
  let (scheme, encoded) ← Text.cut ' ' (Text.trim value.toList)
  if scheme.map Char.toLower ≠ "basic".toList then none
  let symbols := Octets.ofText (String.ofList (Text.trim encoded))
  let decoded ← (Text.Base64.decode .standard symbols).toOption
  let credentials ← decoded.text?
  match Text.before ':' credentials.toList with
  | [] => none
  | user => some (String.ofList user)

def proxyToken? (headers : Http.Headers) : Option String :=
  (headers.text? "proxy-authorization").bind tokenOfCredentials?

def credentialsRequired : Http.Response :=
  ⟨407, [("proxy-authenticate", Octets.ofText s!"Basic realm=\"{realm}\"")], []⟩

end Tollgate.Tunnel
