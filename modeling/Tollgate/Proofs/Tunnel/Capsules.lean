import Tollgate.Proofs.Tunnel.Varint
import Tollgate.Tunnel.Capsule

/-!
# Streams of capsules

A `Frame` is a capsule with octets that stand for it on a stream: encodings of its type and its
length, and its value. A reader takes a whole frame off a stream whatever follows it, and finds the
end of the stream inside any part of a frame. So a stream gives back its capsules, and a stream that
is cut off gives back those before the cut and no other.
-/

namespace Tollgate.Tunnel

namespace Capsule

/-- A capsule as it may stand on a stream. -/
structure Frame where
  capsule : Capsule
  kindBytes : Octets
  lengthBytes : Octets
  isKind : Varint.IsEncoding capsule.kind kindBytes
  isLength : Varint.IsEncoding capsule.value.length lengthBytes

namespace Frame

def bytes (frame : Frame) : Octets := frame.kindBytes ++ (frame.lengthBytes ++ frame.capsule.value)

/-- The octets of some frames one after another. -/
def stream (frames : List Frame) : Octets := frames.flatMap bytes

/-- The value is not longer than a reader accepts. -/
def Fits (frame : Frame) : Prop := frame.capsule.value.length ≤ maxCapsuleValue

end Frame

variable {input rest afterKind : Octets} {kind count cut : Nat} {capsule : Capsule}
variable {error : ReadError} {frame : Frame} {frames : List Frame}

/-! ## One capsule -/

theorem read_nil : read [] = .ok none := rfl

theorem read_of_error (h : Varint.read input = .error error) : read input = .error error := by
  simp [read, h, bind, Except.bind]

theorem read_of_kind (h : Varint.read input = .ok (some (kind, afterKind))) :
    read input =
      match Varint.read afterKind with
      | .error error => .error error
      | .ok none => .error .missingLength
      | .ok (some (length, afterLength)) =>
        if maxCapsuleValue < length then .error .capsuleTooLarge
        else
          match Octets.take? length afterLength with
          | none => .error .endedEarly
          | some (value, rest) => .ok (some (⟨kind, value⟩, rest)) := by
  simp only [read, h, bind, Except.bind]
  cases Varint.read afterKind with
  | error error => rfl
  | ok length? =>
      rcases length? with _ | ⟨length, afterLength⟩
      · rfl
      · dsimp only
        split
        · rfl
        · cases Octets.take? length afterLength <;> rfl

namespace Frame

theorem read_append (fits : frame.Fits) (rest : Octets) :
    read (frame.bytes ++ rest) = .ok (some (frame.capsule, rest)) := by
  rw [bytes, List.append_assoc, List.append_assoc, read_of_kind (frame.isKind.read_append _),
    frame.isLength.read_append]
  simp only [if_neg (Nat.not_lt.mpr fits), Octets.take?_append]

/-- The end of the stream is found inside the type, behind it, inside the length or inside the
value. -/
theorem read_take (fits : frame.Fits) (begun : 0 < count) (inside : count < frame.bytes.length) :
    ∃ error, read (frame.bytes.take count) = .error error ∧ error.isUnexpectedEnd = true := by
  rw [bytes, List.length_append, List.length_append] at inside
  rw [bytes, List.take_append]
  by_cases inKind : count < frame.kindBytes.length
  · rw [Nat.sub_eq_zero_of_le (Nat.le_of_lt inKind), List.take_zero, List.append_nil,
      read_of_error (frame.isKind.read_take begun inKind)]
    exact ⟨.endedEarly, rfl, rfl⟩
  · rw [List.take_of_length_le (Nat.not_lt.mp inKind),
      read_of_kind (frame.isKind.read_append _), List.take_append]
    generalize behind_eq : count - frame.kindBytes.length = behind
    rcases Nat.eq_zero_or_pos behind with rfl | begun
    · rw [List.take_zero, Nat.zero_sub, List.take_zero]
      exact ⟨.missingLength, rfl, rfl⟩
    · by_cases inLength : behind < frame.lengthBytes.length
      · rw [Nat.sub_eq_zero_of_le (Nat.le_of_lt inLength), List.take_zero, List.append_nil,
          frame.isLength.read_take begun inLength]
        exact ⟨.endedEarly, rfl, rfl⟩
      · have short : ¬ frame.capsule.value.length ≤
            (frame.capsule.value.take (behind - frame.lengthBytes.length)).length := by
          rw [List.length_take]
          omega
        rw [List.take_of_length_le (Nat.not_lt.mp inLength), frame.isLength.read_append]
        simp only [if_neg (Nat.not_lt.mpr fits), Octets.take?_eq, if_neg short]
        exact ⟨.endedEarly, rfl, rfl⟩

end Frame

/-- What is read off a stream is a frame that is not too long. -/
theorem exists_frame_of_read (h : read input = .ok (some (capsule, rest))) :
    ∃ frame : Frame, frame.capsule = capsule ∧ frame.Fits ∧ input = frame.bytes ++ rest := by
  cases kind_read : Varint.read input with
  | error error =>
      rw [read_of_error kind_read] at h
      cases h
  | ok kind? =>
      rcases kind? with _ | ⟨kind, afterKind⟩
      · simp [read, kind_read, bind, Except.bind, pure, Except.pure] at h
      · rw [read_of_kind kind_read] at h
        split at h
        next => cases h
        next => cases h
        next length afterLength length_read =>
            split at h
            next => cases h
            next short =>
                split at h
                next => cases h
                next value behind taken =>
                    obtain ⟨rfl, rfl⟩ := Prod.mk.inj (Option.some.inj (Except.ok.inj h))
                    obtain ⟨rfl, afterLength_eq⟩ := Octets.take?_eq_some taken
                    obtain ⟨kindBytes, rfl, isKind⟩ := Varint.exists_isEncoding_of_read kind_read
                    obtain ⟨lengthBytes, rfl, isLength⟩ :=
                      Varint.exists_isEncoding_of_read length_read
                    refine ⟨⟨⟨kind, value⟩, kindBytes, lengthBytes, isKind, isLength⟩, rfl,
                      Nat.not_lt.mp short, ?_⟩
                    rw [Frame.bytes, afterLength_eq, List.append_assoc, List.append_assoc]

/-! ## All capsules -/

theorem readAll_of_error (h : read input = .error error) : readAll input = ([], some error) := by
  rw [readAll]
  split <;> simp_all

theorem readAll_of_none (h : read input = .ok none) : readAll input = ([], none) := by
  rw [readAll]
  split <;> simp_all

theorem readAll_of_some (h : read input = .ok (some (capsule, rest))) :
    readAll input = (capsule :: (readAll rest).1, (readAll rest).2) := by
  rw [readAll]
  split <;> simp_all

theorem readAll_nil : readAll [] = ([], none) := readAll_of_none read_nil

namespace Frame

@[simp] theorem stream_nil : stream [] = [] := rfl

@[simp] theorem stream_cons (frame : Frame) (frames : List Frame) :
    stream (frame :: frames) = frame.bytes ++ stream frames := List.flatMap_cons

@[simp] theorem stream_append (frames more : List Frame) :
    stream (frames ++ more) = stream frames ++ stream more := List.flatMap_append

/-- Whole frames are read whatever follows them. -/
theorem readAll_stream_append (fit : ∀ frame ∈ frames, frame.Fits) (rest : Octets) :
    readAll (stream frames ++ rest) =
      (frames.map (·.capsule) ++ (readAll rest).1, (readAll rest).2) := by
  induction frames with
  | nil => rfl
  | cons frame frames ih =>
      have first := read_append (fit frame List.mem_cons_self) (stream frames ++ rest)
      rw [stream_cons, List.append_assoc, readAll_of_some first,
        ih fun other mem => fit other (List.mem_cons_of_mem frame mem)]
      rfl

/-- A part of a frame gives no capsule, and the stream has ended too early unless the part is
empty. -/
theorem readAll_take (fits : frame.Fits) (inside : count < frame.bytes.length) :
    (readAll (frame.bytes.take count)).1 = [] ∧
      (count = 0 → (readAll (frame.bytes.take count)).2 = none) ∧
      (count ≠ 0 → ∃ error, (readAll (frame.bytes.take count)).2 = some error ∧
        error.isUnexpectedEnd = true) := by
  rcases Nat.eq_zero_or_pos count with rfl | begun
  · rw [List.take_zero, readAll_nil]
    exact ⟨rfl, fun _ => rfl, fun begun => absurd rfl begun⟩
  · obtain ⟨error, ended, unexpected⟩ := read_take fits begun inside
    rw [readAll_of_error ended]
    exact ⟨rfl, fun nothing => absurd nothing (Nat.ne_of_gt begun),
      fun _ => ⟨error, rfl, unexpected⟩⟩

/-- A place on a stream has some whole frames before it, and then perhaps a part of the next. -/
theorem exists_whole (inside : cut ≤ (stream frames).length) :
    ∃ whole rest, frames = whole ++ rest ∧ (stream whole).length ≤ cut ∧
      ∀ next ∈ rest.head?, cut < (stream (whole ++ [next])).length := by
  induction frames generalizing cut with
  | nil => exact ⟨[], [], rfl, Nat.zero_le cut, by simp⟩
  | cons frame frames ih =>
      rw [stream_cons, List.length_append] at inside
      by_cases before : frame.bytes.length ≤ cut
      · have behind : cut - frame.bytes.length ≤ (stream frames).length := by omega
        obtain ⟨whole, rest, rfl, whole_le, next_lt⟩ := ih behind
        refine ⟨frame :: whole, rest, rfl, ?_, fun next mem => ?_⟩
        · rw [stream_cons, List.length_append]
          omega
        · have next_lt := next_lt next mem
          rw [List.cons_append, stream_cons, List.length_append]
          omega
      · refine ⟨[], frame :: frames, rfl, Nat.zero_le cut, fun next mem => ?_⟩
        obtain rfl : frame = next := Option.some.inj mem
        simpa using before

end Frame

/-- Wherever a stream of capsules is cut off, its reader gives the capsules that are there as a
whole, in order and unchanged. It ends as usual if the cut is behind the last of them, and
otherwise it says that the stream has ended too early. -/
theorem truncation_never_silent (frames : List Frame) (fit : ∀ frame ∈ frames, frame.Fits)
    (cut : Nat) (inside : cut ≤ (Frame.stream frames).length) :
    ∃ whole rest, frames = whole ++ rest ∧ (Frame.stream whole).length ≤ cut ∧
      (∀ next ∈ rest.head?, cut < (Frame.stream (whole ++ [next])).length) ∧
      (readAll ((Frame.stream frames).take cut)).1 = whole.map (·.capsule) ∧
      (cut = (Frame.stream whole).length → (readAll ((Frame.stream frames).take cut)).2 = none) ∧
      (cut ≠ (Frame.stream whole).length →
        ∃ error, (readAll ((Frame.stream frames).take cut)).2 = some error ∧
          error.isUnexpectedEnd = true) := by
  obtain ⟨whole, rest, rfl, whole_le, next_lt⟩ := Frame.exists_whole inside
  have fit_whole : ∀ frame ∈ whole, frame.Fits :=
    fun frame mem => fit frame (List.mem_append_left rest mem)
  refine ⟨whole, rest, rfl, whole_le, next_lt, ?_⟩
  obtain ⟨part, rfl⟩ := Nat.exists_eq_add_of_le whole_le
  rw [Frame.stream_append, List.length_append] at inside
  rw [Frame.stream_append, List.take_append, List.take_of_length_le whole_le,
    Nat.add_sub_cancel_left, Frame.readAll_stream_append fit_whole, Nat.add_eq_left, Ne,
    Nat.add_eq_left]
  cases rest with
  | nil =>
      obtain rfl : part = 0 := by
        simp at inside
        exact inside
      rw [List.take_zero, readAll_nil, List.append_nil]
      exact ⟨rfl, fun _ => rfl, fun begun => absurd rfl begun⟩
  | cons next later =>
      have inside_next : part < next.bytes.length := by
        have next_lt := next_lt next rfl
        rw [Frame.stream_append, List.length_append, Frame.stream_cons, Frame.stream_nil,
          List.append_nil] at next_lt
        omega
      have next_fits := fit next (List.mem_append_right whole List.mem_cons_self)
      obtain ⟨nothing, clean, ended⟩ := Frame.readAll_take next_fits inside_next
      rw [Frame.stream_cons, List.take_append_of_le_length (Nat.le_of_lt inside_next), nothing,
        List.append_nil]
      exact ⟨rfl, clean, ended⟩

def Frame.oneOctet : Frame where
  capsule := ⟨datagramKind, [0, 0x61]⟩
  kindBytes := [0]
  lengthBytes := [2]
  isKind := .intro 1 (by decide) (by decide)
  isLength := .intro 1 (by decide) (by decide)

/-- A capsule of another type, the length of its value in two octets where one would do. -/
def Frame.longLength : Frame where
  capsule := ⟨7, [0xFF]⟩
  kindBytes := [7]
  lengthBytes := [0x40, 1]
  isKind := .intro 1 (by decide) (by decide)
  isLength := .intro 2 (by decide) (by decide)

/-- Inside the length of its second capsule a stream ends too early. -/
theorem cut_inside_length :
    (readAll [0, 2, 0, 0x61, 7, 0x40]).1 = [⟨datagramKind, [0, 0x61]⟩] ∧
      ∃ error, (readAll [0, 2, 0, 0x61, 7, 0x40]).2 = some error ∧
        error.isUnexpectedEnd = true := by
  have fit : ∀ frame ∈ [Frame.oneOctet, Frame.longLength], frame.Fits := by
    intro frame mem
    rw [Frame.Fits]
    revert frame
    decide
  obtain ⟨whole, rest, frames_eq, whole_le, next_lt, read, -, ended⟩ :=
    truncation_never_silent [Frame.oneOctet, Frame.longLength] fit 6 (by decide)
  match whole, frames_eq with
  | [], frames_eq =>
      obtain rfl : [Frame.oneOctet, Frame.longLength] = rest := frames_eq
      exact absurd (next_lt Frame.oneOctet rfl) (by decide)
  | [first], frames_eq =>
      obtain rfl : Frame.oneOctet = first := (List.cons.inj frames_eq).1
      exact ⟨read, ended (by decide)⟩
  | first :: second :: more, frames_eq =>
      obtain ⟨first_eq, later_eq⟩ := List.cons.inj frames_eq
      obtain rfl : Frame.longLength = second := (List.cons.inj later_eq).1
      subst first_eq
      rw [Frame.stream_cons, Frame.stream_cons, List.length_append, List.length_append] at whole_le
      have both : Frame.oneOctet.bytes.length + Frame.longLength.bytes.length = 8 := by decide
      omega

end Capsule

end Tollgate.Tunnel
