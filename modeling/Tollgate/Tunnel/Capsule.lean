import Tollgate.Tunnel.Varint

/-!
# Capsules

A datagram tunnel carries UDP payloads on its byte stream as capsules: a type, a length and a
value, where the value of a DATAGRAM capsule is a context id followed by the payload. Capsules of
other types are read and skipped. Replies always use context id 0.
-/

namespace Tollgate.Tunnel

/-- The largest UDP payload that is relayed in either direction. -/
def maxUdpPayload : Nat := 65527

/-- The longest capsule value that is accepted: a payload behind the longest context id. -/
def maxCapsuleValue : Nat := maxUdpPayload + 8

def udpContext : Nat := 0

/-- One capsule taken off a stream. -/
structure Capsule where
  /-- The capsule type. -/
  kind : Nat
  value : Octets
  deriving DecidableEq, Repr

namespace Capsule

def datagramKind : Nat := 0

/-- The UDP payload of a DATAGRAM capsule, which is its value behind the context id. Other
capsules, and values that end inside the context id, carry none. -/
def udpPayload? (capsule : Capsule) : Option Octets :=
  if capsule.kind = datagramKind then
    (Varint.decode? capsule.value).map fun (_, length) => capsule.value.drop length
  else none

/-- Takes the next capsule off a stream; nothing on a clean end. -/
def read (stream : Octets) : Except ReadError (Option (Capsule × Octets)) := do
  match ← Varint.read stream with
  | none => return none
  | some (kind, afterKind) =>
    match ← Varint.read afterKind with
    | none => throw .missingLength
    | some (length, afterLength) =>
      if maxCapsuleValue < length then throw .capsuleTooLarge
      match Octets.take? length afterLength with
      | none => throw .endedEarly
      | some (value, rest) => return some (⟨kind, value⟩, rest)

theorem length_lt_of_read {stream rest : Octets} {capsule : Capsule}
    (h : read stream = .ok (some (capsule, rest))) : rest.length < stream.length := by
  unfold read at h
  cases hk : Varint.read stream with
  | error e => simp [hk, bind, Except.bind] at h
  | ok kind? =>
    rcases kind? with _ | ⟨kind, afterKind⟩
    · simp [hk, bind, Except.bind, pure, Except.pure] at h
    · have shorter := Varint.length_lt_of_read hk
      cases hl : Varint.read afterKind with
      | error e => simp [hk, hl, bind, Except.bind] at h
      | ok length? =>
        rcases length? with _ | ⟨length, afterLength⟩
        · simp [hk, hl, bind, Except.bind, throw, throwThe, MonadExceptOf.throw] at h
        · have shorter' := Varint.length_lt_of_read hl
          simp only [hk, hl, bind, Except.bind] at h
          by_cases big : maxCapsuleValue < length
          · simp [big, throw, throwThe, MonadExceptOf.throw] at h
          · cases taken : Octets.take? length afterLength with
            | none => simp [big, taken, throw, throwThe, MonadExceptOf.throw] at h
            | some parts =>
              have remains := Octets.length_of_take? taken
              simp [big, taken, pure, Except.pure] at h
              simp only [← h.2]
              omega

/-- All capsules of a stream in order, and the error that ends them, if one does. -/
def readAll (stream : Octets) : List Capsule × Option ReadError :=
  match h : read stream with
  | .error error => ([], some error)
  | .ok none => ([], none)
  | .ok (some (capsule, rest)) =>
    have : rest.length < stream.length := length_lt_of_read h
    let (capsules, error) := readAll rest
    (capsule :: capsules, error)
termination_by stream.length

end Capsule

/-- The DATAGRAM capsule that carries a UDP payload; payloads beyond any datagram have none. -/
def encodeDatagram? (payload : Octets) : Option Octets := do
  let context ← Varint.encode? udpContext
  let kind ← Varint.encode? Capsule.datagramKind
  let length ← Varint.encode? (context.length + payload.length)
  return kind ++ length ++ context ++ payload

/-- Writes the DATAGRAM capsule that carries a UDP payload behind what a buffer holds. -/
def writeDatagram (payload : Octets) : EStateM Varint.WriteError Octets Unit := do
  Varint.write Capsule.datagramKind
  Varint.write (Varint.encodedLength udpContext + payload.length)
  Varint.write udpContext
  modify (· ++ payload)

end Tollgate.Tunnel
