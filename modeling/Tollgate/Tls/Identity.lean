import Tollgate.Tls.Der
import Tollgate.Tls.Pem

/-!
# The identity of a TLS listener

A listener shows a chain of certificates and proves that it has the private key of the first. Both
come from PEM files. Certificates that cannot be read are passed over; a key that cannot be read is
an error.
-/

namespace Tollgate.Tls

/-- A file by its name, and what it holds if it is there. -/
structure PemFile where
  path : String
  content : Option Octets

inductive IdentityError where
  | certificate (reason : String)
  | key (reason : String)
  /-- The certificate or the key is none that can be used. -/
  | unusable (reason : String)
  deriving DecidableEq, Repr

/-- Why a listener has no identity, in words. -/
def IdentityError.message : IdentityError → String
  | .certificate reason => s!"Certificate error: {reason}"
  | .key reason => s!"Key error: {reason}"
  | .unusable reason => s!"Failed to build TLS config: {reason}"

inductive KeyKind where
  | named
  | rsa
  | curve
  deriving DecidableEq, Repr

def KeyKind.ofLabel? (label : Octets) : Option KeyKind :=
  if label = Octets.ofText "PRIVATE KEY" then some .named
  else if label = Octets.ofText "RSA PRIVATE KEY" then some .rsa
  else if label = Octets.ofText "EC PRIVATE KEY" then some .curve
  else none

def KeyKind.accepts : KeyKind → Octets → Bool
  | .named => Der.isNamedKey
  | .rsa => Der.isRsaKey
  | .curve => Der.isCurveKey

/-- A chain of certificates with the key of the first. -/
structure Identity where
  chain : List Octets
  keyKind : KeyKind
  key : Octets
  /-- The protocols that are offered, most wanted first. -/
  protocols : List String

namespace Identity

def httpsProtocols : List String := ["h2", "http/1.1"]

/-- The protocols of the listener for DNS over TLS. -/
def dotProtocols : List String := ["dot"]

private def missing (path : String) : String :=
  s!"Failed to open {path}: No such file or directory (os error 2)"

/-- The certificates of a file, at least one. -/
def chainOf (file : PemFile) : Except IdentityError (List Octets) :=
  match file.content with
  | none => .error (.certificate (missing file.path))
  | some content =>
    let chain := (Pem.entries content).filterMap fun entry =>
      match entry with
      | .ok entry =>
        if entry.label = Octets.ofText "CERTIFICATE" then some entry.content else none
      | .error _ => none
    if chain.isEmpty then .error (.certificate s!"No certificates found in {file.path}")
    else .ok chain

/-- The first key among sections, unless one before it cannot be read. -/
private def firstKey :
    List (Except Pem.Fault Pem.Entry) → Except Pem.Fault (Option (KeyKind × Octets))
  | [] => .ok none
  | .error fault :: _ => .error fault
  | .ok entry :: rest =>
    match KeyKind.ofLabel? entry.label with
    | some kind => .ok (some (kind, entry.content))
    | none => firstKey rest

def keyOf (file : PemFile) : Except IdentityError (KeyKind × Octets) :=
  match file.content with
  | none => .error (.key (missing file.path))
  | some content =>
    match firstKey (Pem.entries content) with
    | .error fault => .error (.key s!"Failed to read private key: {fault.message}")
    | .ok none => .error (.key s!"No private key found in {file.path}")
    | .ok (some key) => .ok key

def load (certificates key : PemFile) (protocols : List String) :
    Except IdentityError Identity := do
  let chain ← chainOf certificates
  let (keyKind, key) ← keyOf key
  if !keyKind.accepts key then
    throw (.unusable
      "unexpected error: failed to parse private key as RSA, ECDSA, or EdDSA")
  if !(chain.head?.any Der.isCertificate) then
    throw (.unusable "invalid peer certificate: BadEncoding")
  return { chain, keyKind, key, protocols }

end Identity

end Tollgate.Tls
