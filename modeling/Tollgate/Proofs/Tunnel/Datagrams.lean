import Tollgate.Proofs.Tunnel.Capsules

/-!
# Datagrams in capsules

What is written for a UDP payload is the frame of a DATAGRAM capsule, behind whatever the buffer
holds. The longest payload stays below the longest value that a reader accepts, so the frames of any
payloads are read back.
-/

namespace Tollgate.Tunnel

open Capsule (Frame)

variable {payload frame : Octets} {payloads : List Octets}

/-- The DATAGRAM capsule of a plain UDP payload. -/
def Capsule.ofPayload (payload : Octets) : Capsule := ⟨datagramKind, 0 :: payload⟩

/-- The context id of plain UDP payloads takes one octet. -/
theorem Capsule.udpPayload?_ofPayload (payload : Octets) :
    (ofPayload payload).udpPayload? = some payload := by
  have context : Varint.IsEncoding udpContext [0] := .intro 1 (by decide) (by decide)
  have decoded : Varint.decode? (0 :: payload) = some (udpContext, 1) :=
    context.decode?_append payload
  rw [udpPayload?, ofPayload, if_pos rfl, decoded]
  rfl

/-! ## Writing -/

/-- Only the length of a payload may have no encoding. -/
theorem encodeDatagram?_eq (payload : Octets) :
    encodeDatagram? payload =
      (Varint.encode? (payload.length + 1)).map fun length => [0] ++ (length ++ 0 :: payload) := by
  have zero : Varint.encode? 0 = some [0] := rfl
  have one_add : [(0 : UInt8)].length + payload.length = payload.length + 1 := Nat.add_comm 1 _
  simp only [encodeDatagram?, udpContext, Capsule.datagramKind, zero, Option.bind_eq_bind,
    Option.bind_some, one_add]
  cases Varint.encode? (payload.length + 1) <;> simp

/-- A capsule is written behind what the buffer holds. Of one that is too long, the type is. -/
theorem writeDatagram_run (payload buffer : Octets) :
    (writeDatagram payload).run buffer =
      match encodeDatagram? payload with
      | some frame => .ok () (buffer ++ frame)
      | none => .error .outOfRange (buffer ++ [0]) := by
  have zero : Varint.encode? 0 = some [0] := rfl
  have one_add : Varint.encodedLength 0 + payload.length = payload.length + 1 := Nat.add_comm 1 _
  rw [encodeDatagram?_eq]
  simp only [writeDatagram, EStateM.run_bind, Varint.write_run, Capsule.datagramKind, udpContext,
    zero, one_add]
  cases Varint.encode? (payload.length + 1) with
  | none => rfl
  | some length => simp

/-! ## Reading what was written -/

/-- The frame of a payload that is not too long for a datagram. -/
theorem exists_frame (fits : payload.length ≤ maxUdpPayload) :
    ∃ frame : Frame, encodeDatagram? payload = some frame.bytes ∧ frame.Fits ∧
      frame.capsule = .ofPayload payload := by
  have value_le : payload.length + 1 ≤ Varint.maxValue := by
    unfold maxUdpPayload at fits
    unfold Varint.maxValue
    omega
  have encoded := Varint.encode?_of_le value_le
  have kind : Varint.IsEncoding Capsule.datagramKind [0] := .intro 1 (by decide) (by decide)
  refine ⟨{ capsule := .ofPayload payload
            kindBytes := [0]
            lengthBytes := _
            isKind := kind
            isLength := Varint.isEncoding_of_encode? encoded }, ?_, ?_, rfl⟩
  · rw [encodeDatagram?_eq, encoded]
    rfl
  · unfold maxUdpPayload at fits
    simp only [Frame.Fits, Capsule.ofPayload, List.length_cons, maxCapsuleValue, maxUdpPayload]
    omega

theorem exists_frames (fit : ∀ payload ∈ payloads, payload.length ≤ maxUdpPayload) :
    ∃ frames : List Frame, payloads.mapM encodeDatagram? = some (frames.map (·.bytes)) ∧
      (∀ frame ∈ frames, frame.Fits) ∧
      frames.map (·.capsule) = payloads.map .ofPayload := by
  induction payloads with
  | nil => exact ⟨[], rfl, List.forall_mem_nil _, rfl⟩
  | cons payload payloads ih =>
      obtain ⟨frame, encoded, fits, capsule_eq⟩ := exists_frame (fit payload List.mem_cons_self)
      obtain ⟨frames, all_encoded, all_fit, capsules_eq⟩ :=
        ih fun other mem => fit other (List.mem_cons_of_mem payload mem)
      refine ⟨frame :: frames, ?_, List.forall_mem_cons.mpr ⟨fits, all_fit⟩, ?_⟩
      · rw [List.mapM_cons, encoded, all_encoded]
        rfl
      · rw [List.map_cons, List.map_cons, capsule_eq, capsules_eq]

theorem writeDatagrams_run {frames : List Octets}
    (encoded : payloads.mapM encodeDatagram? = some frames) (buffer : Octets) :
    (payloads.forM writeDatagram).run buffer = .ok () (buffer ++ frames.flatten) := by
  induction payloads generalizing frames buffer with
  | nil =>
      obtain rfl : [] = frames := Option.some.inj encoded
      simp [EStateM.run_pure]
  | cons payload payloads ih =>
      rw [List.mapM_cons, Option.bind_eq_bind, Option.bind_eq_some_iff] at encoded
      obtain ⟨frame, first, encoded⟩ := encoded
      rw [Option.bind_eq_bind, Option.bind_eq_some_iff] at encoded
      obtain ⟨later, rest, frames_eq⟩ := encoded
      obtain rfl : frame :: later = frames := Option.some.inj frames_eq
      change (writeDatagram payload >>= fun _ => payloads.forM writeDatagram).run buffer = _
      rw [EStateM.run_bind, writeDatagram_run, first]
      dsimp only
      rw [ih rest, List.flatten_cons, List.append_assoc]

/-- Payloads of any number, each of any length that a datagram may have, are written as capsules
behind what a buffer holds, and a reader of these capsules finds one DATAGRAM capsule for each
payload, with the payload in it, and then the end. -/
theorem datagrams_round_trip (payloads : List Octets)
    (fit : ∀ payload ∈ payloads, payload.length ≤ maxUdpPayload) :
    ∃ frames : List Octets, payloads.mapM encodeDatagram? = some frames ∧
      (∀ buffer, (payloads.forM writeDatagram).run buffer = .ok () (buffer ++ frames.flatten)) ∧
      (∀ capsule ∈ (Capsule.readAll frames.flatten).1, capsule.kind = Capsule.datagramKind) ∧
      (Capsule.readAll frames.flatten).1.map (·.udpPayload?) = payloads.map some ∧
      (Capsule.readAll frames.flatten).2 = none := by
  obtain ⟨frames, encoded, all_fit, capsules_eq⟩ := exists_frames fit
  have all_read : Capsule.readAll (frames.map (·.bytes)).flatten =
      (payloads.map .ofPayload, none) := by
    have read := Frame.readAll_stream_append all_fit []
    rwa [List.append_nil, Capsule.readAll_nil, List.append_nil, capsules_eq, Frame.stream,
      List.flatMap_def] at read
  refine ⟨frames.map (·.bytes), encoded, writeDatagrams_run encoded, ?_⟩
  rw [all_read]
  refine ⟨?_, ?_, rfl⟩
  · intro capsule mem
    obtain ⟨payload, -, rfl⟩ := List.mem_map.mp mem
    rfl
  · rw [List.map_map]
    exact List.map_congr_left fun payload _ => Capsule.udpPayload?_ofPayload payload

/-- An empty payload and one of one octet. -/
theorem empty_and_single_read_back :
    (Capsule.readAll [0, 1, 0, 0, 2, 0, 0x61]).1.map (·.udpPayload?) = [some [], some [0x61]] ∧
      (Capsule.readAll [0, 1, 0, 0, 2, 0, 0x61]).2 = none := by
  have fit : ∀ payload ∈ [[], [(0x61 : UInt8)]], payload.length ≤ maxUdpPayload := by decide
  obtain ⟨frames, encoded, -, -, read, ended⟩ := datagrams_round_trip [[], [0x61]] fit
  have written : [[], [0x61]].mapM encodeDatagram? = some [[0, 1, 0], [0, 2, 0, 0x61]] := by
    decide
  obtain rfl : [[0, 1, 0], [0, 2, 0, 0x61]] = frames :=
    Option.some.inj (written.symm.trans encoded)
  exact ⟨read, ended⟩

end Tollgate.Tunnel
