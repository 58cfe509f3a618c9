import Tollgate.Proofs.Tunnel.ForeignCapsules

/-!
# How long a relayed payload can be

A reader limits the value of a capsule as a whole, to the longest payload behind the longest context
id. The context id is taken off later, and it may be shorter, and then there is room for a longer
payload. So what bounds a payload is the length of the context id in front of it: only behind one of
eight octets it always fits a datagram, and behind the shorter ones it may be longer by what they
leave free.
-/

namespace Tollgate.Tunnel

open Metering (Attempt ByteCounter)

variable {rest stream payload more : Octets} {capsule : Capsule} {width : Nat} {first : UInt8}

namespace Capsule

/-- Among the capsules of a stream is a DATAGRAM capsule with a payload behind a context id of some
octets. -/
inductive Reads (stream : Octets) (width : Nat) (payload : Octets) : Prop where
  | intro (context : Nat) (contextBytes : Octets)
      (isContext : Varint.IsEncoding context contextBytes) (length_eq : contextBytes.length = width)
      (mem : ⟨datagramKind, contextBytes ++ payload⟩ ∈ (readAll stream).1)

/-! ## The payload of one capsule -/

/-- The first octet of a value says where its payload begins. -/
theorem udpPayload?_cons (first : UInt8) (more : Octets) :
    (Capsule.mk datagramKind (first :: more)).udpPayload? =
      if Varint.announcedLength first ≤ more.length + 1 then
        some ((first :: more).drop (Varint.announcedLength first))
      else none := by
  have positive := Varint.announcedLength_pos first
  rw [udpPayload?, if_pos rfl, Varint.decode?_cons, Octets.take?_eq]
  by_cases whole : Varint.announcedLength first ≤ more.length + 1
  · have enough : Varint.announcedLength first - 1 ≤ more.length := by omega
    rw [if_pos whole, if_pos enough]
    rfl
  · have short : ¬ Varint.announcedLength first - 1 ≤ more.length := by omega
    rw [if_neg whole, if_neg short]
    rfl

/-- A payload fits a datagram exactly if its value leaves the room for it. -/
theorem fits_iff_of_cons :
    (∀ payload, (Capsule.mk datagramKind (first :: more)).udpPayload? = some payload →
      payload.length ≤ maxUdpPayload) ↔
        more.length + 1 ≤ maxUdpPayload + Varint.announcedLength first := by
  have length_drop : ((first :: more).drop (Varint.announcedLength first)).length =
      more.length + 1 - Varint.announcedLength first := by
    rw [List.length_drop, List.length_cons]
  rw [udpPayload?_cons]
  constructor
  · intro allFit
    by_cases whole : Varint.announcedLength first ≤ more.length + 1
    · have fits := allFit _ (if_pos whole)
      omega
    · omega
  · rintro room payload found
    obtain ⟨-, payload_eq⟩ := Option.ite_none_right_eq_some.mp found
    obtain rfl := Option.some.inj payload_eq
    omega

theorem exists_cons_of_udpPayload? (found : capsule.udpPayload? = some payload) :
    ∃ first more, capsule = ⟨datagramKind, first :: more⟩ := by
  obtain ⟨kind, value⟩ := capsule
  obtain ⟨rfl, context, bytes, isContext, rfl⟩ := udpPayload?_eq_some_iff.mp found
  obtain ⟨first, more, rfl, -⟩ := isContext.eq_cons
  exact ⟨first, more ++ payload, rfl⟩

/-! ## Payloads of a stream -/

/-- The payloads of a stream fit exactly if each value leaves the room for its own. -/
theorem fits_iff :
    (∀ payload, (∃ capsule ∈ (readAll stream).1, capsule.udpPayload? = some payload) →
      payload.length ≤ maxUdpPayload) ↔
        ∀ first more, ⟨datagramKind, first :: more⟩ ∈ (readAll stream).1 →
          more.length + 1 ≤ maxUdpPayload + Varint.announcedLength first := by
  constructor
  · intro allFit first more mem
    exact fits_iff_of_cons.mp fun payload found => allFit payload ⟨_, mem, found⟩
  · rintro room payload ⟨capsule, mem, found⟩
    obtain ⟨first, more, rfl⟩ := exists_cons_of_udpPayload? found
    exact fits_iff_of_cons.mpr (room first more mem) payload found

/-- No capsule has a value that is longer than accepted. -/
theorem value_le_of_mem_readAll (mem : capsule ∈ (readAll stream).1) :
    capsule.value.length ≤ maxCapsuleValue := by
  induction stream using readAll.induct with
  | case1 stream error failed =>
      rw [readAll_of_error failed] at mem
      cases mem
  | case2 stream ended =>
      rw [readAll_of_none ended] at mem
      cases mem
  | case3 stream first rest taken _ _ _ _ ih =>
      rw [readAll_of_some taken] at mem
      rcases List.mem_cons.mp mem with rfl | later
      · obtain ⟨frame, rfl, fits, -⟩ := exists_frame_of_read taken
        exact fits
      · exact ih later

theorem exists_reads_iff :
    (∃ capsule ∈ (readAll stream).1, capsule.udpPayload? = some payload) ↔
      ∃ width, Reads stream width payload := by
  constructor
  · rintro ⟨⟨kind, value⟩, mem, found⟩
    obtain ⟨rfl, context, bytes, isContext, rfl⟩ := udpPayload?_eq_some_iff.mp found
    exact ⟨bytes.length, .intro context bytes isContext rfl mem⟩
  · rintro ⟨width, context, bytes, isContext, length_eq, mem⟩
    exact ⟨_, mem, udpPayload?_eq_some_iff.mpr ⟨rfl, context, bytes, isContext, rfl⟩⟩

theorem Reads.width_mem (h : Reads stream width payload) : width ∈ Varint.lengths := by
  obtain ⟨context, bytes, isContext, rfl, -⟩ := h
  obtain ⟨width, mem, -⟩ := isContext
  rwa [Varint.encoding, Octets.length_ofNat]

/-- A payload and its context id share the room of a value. -/
theorem Reads.length_add_le (h : Reads stream width payload) :
    width + payload.length ≤ maxCapsuleValue := by
  obtain ⟨context, bytes, isContext, rfl, mem⟩ := h
  have bound := value_le_of_mem_readAll mem
  rwa [List.length_append] at bound

/-! ## The longest payloads -/

/-- The limit of a value makes room for every context id. -/
theorem width_le (mem : width ∈ Varint.lengths) : width ≤ 8 :=
  (by decide : ∀ width ∈ Varint.lengths, width ≤ 8) width mem

/-- What a context id does not take of its room is left to the payload. -/
theorem maxCapsuleValue_sub (mem : width ∈ Varint.lengths) :
    maxCapsuleValue - width = maxUdpPayload + (8 - width) := by
  have short := width_le mem
  rw [maxCapsuleValue]
  omega

theorem Reads.length_le (h : Reads stream width payload) :
    payload.length ≤ maxUdpPayload + (8 - width) := by
  rw [← maxCapsuleValue_sub h.width_mem]
  exact Nat.le_sub_of_add_le' h.length_add_le

/-- A context id of zeros, and the payload that fills the longest value. -/
def longestValue (width : Nat) : Octets :=
  Varint.encoding width 0 ++ List.replicate (maxCapsuleValue - width) 0

theorem length_longestValue (mem : width ∈ Varint.lengths) :
    (longestValue width).length = maxCapsuleValue := by
  have short := width_le mem
  rw [longestValue, List.length_append, Varint.encoding, Octets.length_ofNat, List.length_replicate,
    maxCapsuleValue]
  omega

def Frame.longest (width : Nat) (mem : width ∈ Varint.lengths) : Frame where
  capsule := ⟨datagramKind, longestValue width⟩
  kindBytes := [0]
  lengthBytes := [0x80, 0, 0xFF, 0xFF]
  isKind := (.intro 1 (by decide) (by decide) : Varint.IsEncoding datagramKind [0])
  isLength := by
    rw [length_longestValue mem]
    exact .intro 4 (by decide) (by decide)

theorem Frame.bytes_longest (mem : width ∈ Varint.lengths) :
    (Frame.longest width mem).bytes = [0, 0x80, 0, 0xFF, 0xFF] ++ longestValue width := rfl

/-- All of the room is used. -/
theorem reads_longest (mem : width ∈ Varint.lengths) :
    Reads (Frame.longest width mem).bytes width (List.replicate (maxCapsuleValue - width) 0) := by
  have fits : (Frame.longest width mem).Fits := Nat.le_of_eq (length_longestValue mem)
  have room : 0 < 1 <<< (8 * width - 2) := by
    rw [Nat.one_shiftLeft]
    exact Nat.two_pow_pos _
  have read := Frame.read_append fits []
  rw [List.append_nil] at read
  refine .intro 0 (Varint.encoding width 0) (.intro width mem room) (Octets.length_ofNat _ _) ?_
  rw [readAll_of_some read]
  exact List.mem_cons_self

theorem exists_reads_longest (mem : width ∈ Varint.lengths) :
    ∃ stream payload, Reads stream width payload ∧
      payload.length = maxUdpPayload + (8 - width) :=
  ⟨_, _, reads_longest mem, by rw [List.length_replicate, maxCapsuleValue_sub mem]⟩

end Capsule

open Capsule (Frame Reads readAll)

theorem exists_capsule_of_given (read : Capsule.read stream = .ok (some (capsule, rest)))
    (given : payload ∈ capsule.udpPayload?.toList) :
    ∃ capsule ∈ (readAll stream).1, capsule.udpPayload? = some payload := by
  rw [Capsule.readAll_of_some read]
  exact ⟨capsule, List.mem_cons_self, Option.mem_toList.mp given⟩

/-- What the socket is given are payloads of the stream. -/
theorem exists_capsule_of_mem_payloads {send : Octets → Attempt Nat} {counter : ByteCounter}
    (mem : payload ∈ (relayCapsules send stream counter).payloads) :
    ∃ capsule ∈ (readAll stream).1, capsule.udpPayload? = some payload := by
  induction stream, counter using relayCapsules.induct send with
  | case1 stream counter error failed =>
      rw [relayCapsules_of_error failed] at mem
      cases mem
  | case2 stream counter ended =>
      rw [relayCapsules_of_none ended] at mem
      cases mem
  | case3 stream counter capsule rest read _ counted count taken ih =>
      rw [relayCapsules_of_read read ⟨count, taken⟩] at mem
      rcases List.mem_append.mp mem with given | later
      · exact exists_capsule_of_given read given
      · obtain ⟨other, other_mem, found⟩ := ih later
        rw [Capsule.readAll_of_some read]
        exact ⟨other, List.mem_cons_of_mem _ other_mem, found⟩
  | case4 stream counter capsule rest read _ counted pending =>
      rw [payloads_of_not_taken read fun _ taken => nomatch pending.symm.trans taken] at mem
      exact exists_capsule_of_given read mem
  | case5 stream counter capsule rest read _ counted broken =>
      rw [payloads_of_not_taken read fun _ taken => nomatch broken.symm.trans taken] at mem
      exact exists_capsule_of_given read mem

/-- The payloads of a stream fit a datagram exactly if no value of a DATAGRAM capsule is longer than
a datagram and the context id that its first octet announces. The reader does not see to that: what
bounds a payload is the length of the context id in front of it. Behind one of eight octets it
always fits. Behind one of four, two or one it may be longer than a datagram, by as many octets as
the context id is shorter, and by no more; and there are streams on which it is. The payloads that a
socket is given are payloads of the stream, so the same holds of them. -/
theorem payload_bounded_by_context (stream : Octets) (send : Octets → Attempt Nat)
    (counter : ByteCounter) :
    ((∀ payload, (∃ capsule ∈ (readAll stream).1, capsule.udpPayload? = some payload) →
      payload.length ≤ maxUdpPayload) ↔
        ∀ first more, ⟨Capsule.datagramKind, first :: more⟩ ∈ (readAll stream).1 →
          more.length + 1 ≤ maxUdpPayload + Varint.announcedLength first) ∧
      (∀ payload, (∃ capsule ∈ (readAll stream).1, capsule.udpPayload? = some payload) ↔
        ∃ width, Reads stream width payload) ∧
      (∀ width payload, Reads stream width payload →
        width ∈ Varint.lengths ∧ payload.length ≤ maxUdpPayload + (8 - width)) ∧
      (∀ width ∈ Varint.lengths,
        (∃ longest payload, Reads longest width payload ∧
          payload.length = maxUdpPayload + (8 - width)) ∧
        ((∀ other payload, Reads other width payload → payload.length ≤ maxUdpPayload) ↔
          width = 8)) ∧
      ∀ payload ∈ (relayCapsules send stream counter).payloads,
        ∃ width, Reads stream width payload := by
  refine ⟨Capsule.fits_iff, fun payload => Capsule.exists_reads_iff,
    fun width payload reads => ⟨reads.width_mem, reads.length_le⟩, fun width mem => ?_, ?_⟩
  · have attained := Capsule.exists_reads_longest mem
    refine ⟨attained, fun allFit => ?_, ?_⟩
    · obtain ⟨longest, payload, reads, length⟩ := attained
      have fits := allFit longest payload reads
      have short := Capsule.width_le mem
      omega
    · rintro rfl other payload reads
      exact reads.length_le
  · intro payload mem
    exact Capsule.exists_reads_iff.mp (exists_capsule_of_mem_payloads mem)

/-- The longest payload behind a context id of eight octets just fits. -/
theorem payload_of_wide_context_fits :
    Reads (Frame.longest 8 (by decide)).bytes 8 (List.replicate 65527 0) ∧
      (List.replicate 65527 (0 : UInt8)).length ≤ maxUdpPayload := by
  have mem : 8 ∈ Varint.lengths := by decide
  have reads := Capsule.reads_longest mem
  have bounded := payload_bounded_by_context (Frame.longest 8 mem).bytes
    (fun payload => .done payload.length) {}
  exact ⟨reads, (bounded.2.2.1 8 _ reads).2⟩

/-- Behind a context id of one octet a payload can be seven octets longer than any datagram. -/
theorem payload_of_narrow_context_too_long :
    ∃ capsule ∈ (readAll ([0, 0x80, 0, 0xFF, 0xFF] ++ List.replicate 65535 0)).1,
      ∃ payload, capsule.udpPayload? = some payload ∧ payload.length = maxUdpPayload + 7 := by
  have mem : 1 ∈ Varint.lengths := by decide
  have context : Varint.encoding 1 0 = [0] := by decide
  have room : maxCapsuleValue - 1 = 65534 := by decide
  have zeros : List.replicate 65535 (0 : UInt8) = Capsule.longestValue 1 := by
    rw [Capsule.longestValue, context, room]
    exact List.replicate_succ
  obtain ⟨capsule, listed, found⟩ := Capsule.exists_reads_iff.mpr ⟨1, Capsule.reads_longest mem⟩
  refine ⟨capsule, ?_, _, found, ?_⟩
  · rwa [zeros, ← Frame.bytes_longest mem]
  · rw [List.length_replicate]
    rfl

end Tollgate.Tunnel
