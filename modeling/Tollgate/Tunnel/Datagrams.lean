import Tollgate.Metering.Counter
import Tollgate.Tunnel.Capsule

/-!
# Datagram tunnels

The payloads in the capsules of the client are sent on a socket, and the datagrams that the socket
receives are written to the client in capsules. What crosses the socket is counted: of a payload
what the socket took, and a datagram before it is written to the client. The client's direction is
over when its stream ends or cannot be read on, or when the socket refuses a datagram.
-/

namespace Tollgate.Tunnel

open Metering (Attempt ByteCounter)

/-- What came of a capsule. -/
structure Forwarded where
  /-- The payload that the socket was given. -/
  given : Option Octets
  attempt : Attempt Nat
  counter : ByteCounter

/-- Sends the payload of a capsule on a socket. Capsules without one are skipped. -/
def Capsule.forward (send : Octets → Attempt Nat) (capsule : Capsule) (counter : ByteCounter) :
    Forwarded :=
  match capsule.udpPayload? with
  | none => ⟨none, .done 0, counter⟩
  | some payload =>
    let attempt := send payload
    ⟨some payload, attempt, counter.observe id attempt⟩

/-- How far the capsules of a client were relayed. -/
inductive RelayEnd where
  /-- The client has ended its stream. -/
  | ended
  /-- The stream cannot be read on. -/
  | unreadable (error : ReadError)
  /-- The socket does not take the last datagram yet. -/
  | waiting
  /-- The socket has refused the last datagram. -/
  | refused
  deriving DecidableEq, Repr

/-- What came of a client's stream: the payloads that the socket was given, in order. -/
structure Relayed where
  payloads : List Octets
  counter : ByteCounter
  ending : RelayEnd
  deriving DecidableEq, Repr

/-- Sends the payloads of the capsules on a client's stream, one after the other. -/
def relayCapsules (send : Octets → Attempt Nat) (stream : Octets) (counter : ByteCounter) :
    Relayed :=
  match h : Capsule.read stream with
  | .error error => ⟨[], counter, .unreadable error⟩
  | .ok none => ⟨[], counter, .ended⟩
  | .ok (some (capsule, rest)) =>
    have : rest.length < stream.length := Capsule.length_lt_of_read h
    let forwarded := capsule.forward send counter
    let given := forwarded.given.toList
    match forwarded.attempt with
    | .done _ =>
      let later := relayCapsules send rest forwarded.counter
      { later with payloads := given ++ later.payloads }
    | .pending => ⟨given, forwarded.counter, .waiting⟩
    | .broken => ⟨given, forwarded.counter, .refused⟩
termination_by stream.length

/-- Receives a datagram in a buffer of some size, and puts it into a capsule for the client. -/
def receiveDatagram (receive : Nat → Attempt Octets) (counter : ByteCounter) :
    Attempt Octets × ByteCounter :=
  let attempt := receive maxUdpPayload
  let frame :=
    match attempt with
    | .done payload =>
      match encodeDatagram? payload with
      | some frame => .done frame
      | none => .broken
    | .pending => .pending
    | .broken => .broken
  (frame, counter.observe List.length attempt)

end Tollgate.Tunnel
