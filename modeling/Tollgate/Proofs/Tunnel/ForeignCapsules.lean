import Tollgate.Proofs.Tunnel.Capsules
import Tollgate.Tunnel.Datagrams

/-!
# Capsules of other types

A relay gives the payloads of DATAGRAM capsules to the socket, in order, and passes over capsules of
other types wherever they stand. But the reader looks at the length of a value before anything looks
at the type, and the limit is what a datagram needs. So a capsule of another type is skipped only as
long as it would fit a datagram; a longer one ends the tunnel.
-/

namespace Tollgate.Tunnel

open Metering (Attempt ByteCounter)
open Capsule (Frame datagramKind)

variable {send : Octets → Attempt Nat} {stream rest : Octets} {counter : ByteCounter}
variable {capsule : Capsule} {error : ReadError} {frame : Frame} {frames front : List Frame}
variable {payload : Octets} {payloads given : List Octets}

/-! ## What is on a stream -/

namespace Capsule

/-- The value is a whole context id and a payload behind it. -/
inductive Holds (capsule : Capsule) (payload : Octets) : Prop where
  | intro (context : Nat) (contextBytes : Octets)
      (isContext : Varint.IsEncoding context contextBytes)
      (value_eq : capsule.value = contextBytes ++ payload)

namespace Frame

/-- The payloads of the DATAGRAM capsules among some frames, in order. -/
inductive Carry : List Frame → List Octets → Prop where
  | nil : Carry [] []
  | datagram {frames : List Frame} {payloads : List Octets} (frame : Frame) (payload : Octets)
      (isDatagram : frame.capsule.kind = datagramKind) (holds : frame.capsule.Holds payload)
      (later : Carry frames payloads) : Carry (frame :: frames) (payload :: payloads)
  | foreign {frames : List Frame} {payloads : List Octets} (frame : Frame)
      (isForeign : frame.capsule.kind ≠ datagramKind)
      (later : Carry frames payloads) : Carry (frame :: frames) payloads

theorem Carry.exists_front {behind : List Frame} (h : Carry (front ++ behind) payloads) :
    ∃ given later, payloads = given ++ later ∧ Carry front given ∧ Carry behind later := by
  induction front generalizing payloads with
  | nil => exact ⟨[], payloads, rfl, .nil, h⟩
  | cons frame front ih =>
      cases h with
      | datagram _ payload isDatagram holds h =>
          obtain ⟨given, later, rfl, inFront, behind⟩ := ih h
          exact ⟨payload :: given, later, rfl, .datagram frame payload isDatagram holds inFront,
            behind⟩
      | foreign _ isForeign h =>
          obtain ⟨given, later, rfl, inFront, behind⟩ := ih h
          exact ⟨given, later, rfl, .foreign frame isForeign inFront, behind⟩

/-- The length of a value is refused before its first octet is read. -/
theorem read_append_of_long (long : ¬ frame.Fits) (rest : Octets) :
    read (frame.bytes ++ rest) = .error .capsuleTooLarge := by
  rw [bytes, List.append_assoc, List.append_assoc, read_of_kind (frame.isKind.read_append _),
    frame.isLength.read_append]
  simp only [if_pos (Nat.lt_of_not_le long)]

end Frame

/-- A payload is what stands behind a whole context id. -/
theorem udpPayload?_eq_some_iff :
    capsule.udpPayload? = some payload ↔ capsule.kind = datagramKind ∧ capsule.Holds payload := by
  rw [udpPayload?, Option.ite_none_right_eq_some, Option.map_eq_some_iff]
  refine and_congr_right fun _ => ⟨?_, ?_⟩
  · rintro ⟨⟨context, width⟩, decoded, payload_eq⟩
    obtain ⟨bytes, rest, value_eq, rfl, isContext⟩ := Varint.exists_isEncoding_of_decode? decoded
    dsimp only at payload_eq
    rw [value_eq, List.drop_left] at payload_eq
    exact .intro context bytes isContext (payload_eq ▸ value_eq)
  · rintro ⟨context, bytes, isContext, value_eq⟩
    rw [value_eq]
    exact ⟨_, isContext.decode?_append payload, List.drop_left⟩

theorem udpPayload?_of_foreign (isForeign : capsule.kind ≠ datagramKind) :
    capsule.udpPayload? = none := if_neg isForeign

end Capsule

/-! ## One turn of a relay -/

theorem relayCapsules_of_error (h : Capsule.read stream = .error error) :
    relayCapsules send stream counter = ⟨[], counter, .unreadable error⟩ := by
  rw [relayCapsules]
  split <;> simp_all

theorem relayCapsules_of_none (h : Capsule.read stream = .ok none) :
    relayCapsules send stream counter = ⟨[], counter, .ended⟩ := by
  rw [relayCapsules]
  split <;> simp_all

theorem given_forward (send : Octets → Attempt Nat) (capsule : Capsule) (counter : ByteCounter) :
    (capsule.forward send counter).given = capsule.udpPayload? := by
  rw [Capsule.forward]
  cases capsule.udpPayload? with
  | none => rfl
  | some payload => rfl

/-- A capsule that was passed on or skipped does not show in what follows it. -/
theorem relayCapsules_of_read (h : Capsule.read stream = .ok (some (capsule, rest)))
    (taken : ∃ count, (capsule.forward send counter).attempt = .done count) :
    relayCapsules send stream counter =
      let later := relayCapsules send rest (capsule.forward send counter).counter
      { later with payloads := capsule.udpPayload?.toList ++ later.payloads } := by
  obtain ⟨count, taken⟩ := taken
  rw [relayCapsules, ← given_forward send capsule counter]
  split <;> simp_all

/-- A datagram that the socket does not take is the last one that it is given. -/
theorem payloads_of_not_taken (h : Capsule.read stream = .ok (some (capsule, rest)))
    (stopped : ∀ count, (capsule.forward send counter).attempt ≠ .done count) :
    (relayCapsules send stream counter).payloads = capsule.udpPayload?.toList := by
  rw [relayCapsules]
  split
  next failed => simp [h] at failed
  next ended => simp [h] at ended
  next taken =>
      obtain ⟨rfl, rfl⟩ := Prod.mk.inj (Option.some.inj (Except.ok.inj (h.symm.trans taken)))
      rw [← given_forward send capsule counter]
      cases attempted : (capsule.forward send counter).attempt with
      | done count => exact absurd attempted (stopped count)
      | pending | broken => simp only [attempted]

/-! ## A whole stream -/

/-- The socket takes every datagram. -/
def Takes (send : Octets → Attempt Nat) : Prop := ∀ payload, ∃ count, send payload = .done count

/-- To a socket that takes every datagram, no capsule is in the way of those behind it. -/
theorem Takes.forward (takes : Takes send) (capsule : Capsule) (counter : ByteCounter) :
    ∃ count, (capsule.forward send counter).attempt = .done count := by
  unfold Capsule.forward
  cases capsule.udpPayload? with
  | none => exact ⟨0, rfl⟩
  | some payload => exact takes payload

/-- Frames that fit are passed on or skipped, whatever follows them. -/
theorem Takes.relay_append (takes : Takes send) (fit : ∀ frame ∈ front, frame.Fits)
    (carry : Frame.Carry front given) (rest : Octets) (counter : ByteCounter) :
    ∃ counted, relayCapsules send (Frame.stream front ++ rest) counter =
      { relayCapsules send rest counted with
        payloads := given ++ (relayCapsules send rest counted).payloads } := by
  induction carry generalizing counter with
  | nil => exact ⟨counter, rfl⟩
  | datagram frame payload isDatagram holds later ih =>
      obtain ⟨frame_fits, later_fit⟩ := List.forall_mem_cons.mp fit
      obtain ⟨counted, relayed⟩ := ih later_fit (frame.capsule.forward send counter).counter
      refine ⟨counted, ?_⟩
      rw [Frame.stream_cons, List.append_assoc,
        relayCapsules_of_read (Frame.read_append frame_fits _) (takes.forward _ counter), relayed,
        Capsule.udpPayload?_eq_some_iff.mpr ⟨isDatagram, holds⟩]
      rfl
  | foreign frame isForeign later ih =>
      obtain ⟨frame_fits, later_fit⟩ := List.forall_mem_cons.mp fit
      obtain ⟨counted, relayed⟩ := ih later_fit (frame.capsule.forward send counter).counter
      refine ⟨counted, ?_⟩
      rw [Frame.stream_cons, List.append_assoc,
        relayCapsules_of_read (Frame.read_append frame_fits _) (takes.forward _ counter), relayed,
        Capsule.udpPayload?_of_foreign isForeign]
      rfl

theorem Takes.relay_of_fit (takes : Takes send) (fit : ∀ frame ∈ frames, frame.Fits)
    (carry : Frame.Carry frames payloads) (counter : ByteCounter) :
    (relayCapsules send (Frame.stream frames) counter).payloads = payloads ∧
      (relayCapsules send (Frame.stream frames) counter).ending = .ended := by
  obtain ⟨counted, relayed⟩ := takes.relay_append fit carry [] counter
  rw [List.append_nil, relayCapsules_of_none Capsule.read_nil, List.append_nil] at relayed
  rw [relayed]
  exact ⟨rfl, rfl⟩

theorem Takes.relay_of_long {long : Frame} {behind : List Frame} (takes : Takes send)
    (fit : ∀ frame ∈ front, frame.Fits) (tooLong : ¬ long.Fits)
    (carry : Frame.Carry (front ++ long :: behind) payloads) (counter : ByteCounter) :
    ∃ given later, payloads = given ++ later ∧ Frame.Carry front given ∧
      (relayCapsules send (Frame.stream (front ++ long :: behind)) counter).payloads = given ∧
      (relayCapsules send (Frame.stream (front ++ long :: behind)) counter).ending =
        .unreadable .capsuleTooLarge := by
  obtain ⟨given, later, rfl, inFront, -⟩ := carry.exists_front
  obtain ⟨counted, relayed⟩ :=
    takes.relay_append fit inFront (long.bytes ++ Frame.stream behind) counter
  rw [relayCapsules_of_error (Frame.read_append_of_long tooLong _), List.append_nil] at relayed
  rw [Frame.stream_append, Frame.stream_cons, relayed]
  exact ⟨given, later, rfl, inFront, rfl, rfl⟩

/-- Some frames fit as a whole, or there is a first one that does not. -/
theorem Capsule.Frame.fit_or_exists_long (frames : List Frame) :
    (∀ frame ∈ frames, frame.Fits) ∨
      ∃ front long behind, frames = front ++ long :: behind ∧ (∀ frame ∈ front, frame.Fits) ∧
        ¬ long.Fits := by
  induction frames with
  | nil => exact Or.inl (List.forall_mem_nil _)
  | cons frame frames ih =>
      by_cases fits : frame.Fits
      · rcases ih with fit | ⟨front, long, behind, rfl, fit, tooLong⟩
        · exact Or.inl (List.forall_mem_cons.mpr ⟨fits, fit⟩)
        · exact Or.inr ⟨frame :: front, long, behind, rfl, List.forall_mem_cons.mpr ⟨fits, fit⟩,
            tooLong⟩
      · exact Or.inr ⟨[], frame, frames, rfl, List.forall_mem_nil _, fits⟩

/-- On a stream of capsules, of which those of DATAGRAM type are not too long and hold whole context
ids, the payloads behind these ids are given to the socket, in order, and the stream then ends as
usual, exactly if no capsule of another type is longer than a DATAGRAM capsule may be. The first one
that is longer ends the tunnel, after the payloads in front of it. -/
theorem foreign_capsules_skipped_iff (takes : Takes send) (frames : List Frame)
    (payloads : List Octets) (carry : Frame.Carry frames payloads)
    (datagramsFit : ∀ frame ∈ frames, frame.capsule.kind = datagramKind → frame.Fits)
    (counter : ByteCounter) :
    ((relayCapsules send (Frame.stream frames) counter).payloads = payloads ∧
          (relayCapsules send (Frame.stream frames) counter).ending = .ended ↔
        ∀ frame ∈ frames, frame.capsule.kind ≠ datagramKind → frame.Fits) ∧
      ∀ front long behind, frames = front ++ long :: behind →
        (∀ frame ∈ front, frame.Fits) → ¬ long.Fits →
        ∃ given later, payloads = given ++ later ∧ Frame.Carry front given ∧
          (relayCapsules send (Frame.stream frames) counter).payloads = given ∧
          (relayCapsules send (Frame.stream frames) counter).ending =
            .unreadable .capsuleTooLarge := by
  refine ⟨⟨?_, ?_⟩, ?_⟩
  · rintro ⟨-, ended⟩
    rcases Frame.fit_or_exists_long frames with fit | ⟨front, long, behind, rfl, fit, tooLong⟩
    · exact fun frame mem _ => fit frame mem
    · obtain ⟨given, later, -, -, -, failed⟩ := takes.relay_of_long fit tooLong carry counter
      rw [failed] at ended
      cases ended
  · intro foreignFit
    refine takes.relay_of_fit (fun frame mem => ?_) carry counter
    by_cases isDatagram : frame.capsule.kind = datagramKind
    · exact datagramsFit frame mem isDatagram
    · exact foreignFit frame mem isDatagram
  · rintro front long behind rfl fit tooLong
    exact takes.relay_of_long fit tooLong carry counter

/-- A socket that takes every datagram as a whole. -/
def takesAll (payload : Octets) : Attempt Nat := .done payload.length

theorem takes_takesAll : Takes takesAll := fun payload => ⟨payload.length, rfl⟩

theorem Capsule.Frame.carry_oneOctet (later : Frame.Carry frames payloads) :
    Frame.Carry (Frame.oneOctet :: frames) ([0x61] :: payloads) := by
  have context : Varint.IsEncoding udpContext [0] := .intro 1 (by decide) (by decide)
  exact .datagram _ _ rfl ⟨udpContext, [0], context, rfl⟩ later

/-- A short capsule of another type between two datagrams is skipped. -/
theorem foreign_capsule_between_datagrams_skipped :
    (relayCapsules takesAll [0, 2, 0, 0x61, 7, 0x40, 1, 0xFF, 0, 2, 0, 0x61] {}).payloads =
        [[0x61], [0x61]] ∧
      (relayCapsules takesAll [0, 2, 0, 0x61, 7, 0x40, 1, 0xFF, 0, 2, 0, 0x61] {}).ending =
        .ended := by
  have fit : ∀ frame ∈ [Frame.oneOctet, Frame.longLength, Frame.oneOctet], frame.Fits := by
    intro frame mem
    rw [Frame.Fits]
    revert frame
    decide
  have carry : Frame.Carry [Frame.oneOctet, Frame.longLength, Frame.oneOctet] [[0x61], [0x61]] :=
    Frame.carry_oneOctet (.foreign Frame.longLength (by decide) (Frame.carry_oneOctet .nil))
  exact (foreign_capsules_skipped_iff takes_takesAll _ _ carry (fun frame mem _ => fit frame mem)
    {}).1.mpr fun frame mem _ => fit frame mem

/-- A capsule of another type whose value is one octet longer than a reader accepts. -/
def Capsule.Frame.tooLong : Frame where
  capsule := ⟨7, List.replicate 65536 0⟩
  kindBytes := [7]
  lengthBytes := [0x80, 1, 0, 0]
  isKind := .intro 1 (by decide) (by decide)
  isLength := by
    rw [List.length_replicate]
    exact .intro 4 (by decide) (by decide)

/-- A long capsule of another type ends the tunnel, and the datagram behind it is not relayed. -/
theorem long_foreign_capsule_not_skipped :
    Frame.Carry [Frame.tooLong, Frame.oneOctet] [[0x61]] ∧
      (∀ frame ∈ [Frame.tooLong, Frame.oneOctet],
        frame.capsule.kind = datagramKind → frame.Fits) ∧
      (relayCapsules takesAll (Frame.stream [Frame.tooLong, Frame.oneOctet]) {}).payloads = [] ∧
      (relayCapsules takesAll (Frame.stream [Frame.tooLong, Frame.oneOctet]) {}).ending ≠
        .ended := by
  have carry : Frame.Carry [Frame.tooLong, Frame.oneOctet] [[0x61]] :=
    .foreign Frame.tooLong (by decide) (Frame.carry_oneOctet .nil)
  have tooLong : ¬ Frame.tooLong.Fits := by
    rw [Frame.Fits, Frame.tooLong, List.length_replicate]
    decide
  have fits : Frame.oneOctet.Fits := by
    rw [Frame.Fits]
    decide
  obtain ⟨given, later, -, inFront, payloads_eq, failed⟩ :=
    takes_takesAll.relay_of_long (List.forall_mem_nil _) tooLong carry {}
  obtain rfl : given = [] := by
    cases inFront
    rfl
  refine ⟨carry, ?_, payloads_eq, ?_⟩
  · intro frame mem isDatagram
    rcases List.mem_cons.mp mem with rfl | mem
    · exact absurd isDatagram (by decide)
    · obtain rfl := List.mem_singleton.mp mem
      exact fits
  · intro ended
    cases failed.symm.trans ended

end Tollgate.Tunnel
