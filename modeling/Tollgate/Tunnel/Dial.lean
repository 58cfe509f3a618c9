import Tollgate.Net.Address

/-!
# Dialling

A target is written as a host and a port with a colon between them. A target that is written
otherwise is not dialled, and one that is may turn out to be out of reach.
-/

namespace Tollgate.Tunnel

/-- Why a target is not reached. -/
inductive DialFault where
  | noPort
  | invalidPort
  | networkUnreachable
  deriving DecidableEq, Repr

/-- Why a target is not reached, in words. -/
def DialFault.reason : DialFault → String
  | .noPort => "invalid socket address"
  | .invalidPort => "invalid port value"
  | .networkUnreachable => "Network is unreachable (os error 101)"

/-- What is said of a target that is not reached. -/
def DialFault.message (fault : DialFault) (target : String) : String :=
  s!"Failed to reach {target}: {fault.reason}"

/-- The host and the port of a target. -/
def endpointOf (target : String) : Except DialFault (String × Nat) :=
  match SocketAddress.ofText? target.toList with
  | some address => .ok (address.address.text, address.port)
  | none =>
    let port := Text.afterLast ':' target.toList
    if port.length = target.length then .error .noPort
    else
      match Text.bounded? 65535 port with
      | some n => .ok (String.ofList (target.toList.take (target.length - port.length - 1)), n)
      | none => .error .invalidPort

/-- Dials a target, given which hosts and ports can be reached. -/
def dial (reaches : String × Nat → Bool) (target : String) : Except DialFault Unit := do
  let endpoint ← endpointOf target
  if reaches endpoint then return else throw .networkUnreachable

/-- What is said when an address is already taken by another listener. -/
def addressInUse (address : SocketAddress) : String :=
  s!"Failed to bind {address.text}: Address already in use (os error 98)"

end Tollgate.Tunnel
