import Tollgate.Dns.Dot

/-!
# Messages in frames

On a connection each message follows its length. `Frames` says what a stream holds without reading
it: the frames of some messages, and then octets in which no other message is there as a whole. A
stream holds its messages in one way only, so the reader that takes off one frame after the other
finds them, and it does not matter in which parts the stream comes.
-/

namespace Tollgate.Dns.Dot

/-- A message with its length in front, in two octets. -/
def framed (message : Octets) : Octets :=
  (message.length / 256).toUInt8 :: (message.length % 256).toUInt8 :: message

/-- No message is there as a whole: its length is missing, or fewer octets follow than it says. -/
def Incomplete : Octets → Prop
  | high :: low :: rest => rest.length < high.toNat * 256 + low.toNat
  | _ => True

/-- A stream holds these messages, and then a tail without a whole message. -/
structure Frames (stream : Octets) (messages : List Octets) (tail : Octets) : Prop where
  stream_eq : stream = messages.flatMap framed ++ tail
  fit : ∀ message ∈ messages, message.length ≤ maxLength
  incomplete : Incomplete tail

variable {stream more message rest tail : Octets} {messages others : List Octets}

/-! ## One frame -/

theorem framed_eq (message : Octets) :
    framed message = Octets.ofNat 2 message.length ++ message := by
  have low : message.length.toUInt8 = (message.length % 256).toUInt8 := by
    apply UInt8.toNat_inj.mp
    simp
  simp [framed, Octets.ofNat, low]

theorem frame?_of_le (fits : message.length ≤ maxLength) :
    frame? message = some (framed message) := by
  rw [frame?, if_pos fits, framed_eq]

theorem frame?_of_lt (long : maxLength < message.length) : frame? message = none := by
  rw [frame?, if_neg (Nat.not_le.mpr long)]

theorem takeFrame?_cons_cons (high low : UInt8) (rest : Octets) :
    takeFrame? (high :: low :: rest) = Octets.take? (high.toNat * 256 + low.toNat) rest := by
  simp [takeFrame?, Octets.take?, Octets.toNat]

/-- A frame is taken off whatever follows it. -/
theorem takeFrame?_framed_append (fits : message.length ≤ maxLength) (rest : Octets) :
    takeFrame? (framed message ++ rest) = some (message, rest) := by
  have spelled :
      (message.length / 256).toUInt8.toNat * 256 + (message.length % 256).toUInt8.toNat =
        message.length := by
    rw [maxLength] at fits
    simp
    omega
  rw [framed, List.cons_append, List.cons_append, takeFrame?_cons_cons, spelled,
    Octets.take?_append]

theorem takeFrame?_eq_none_iff : takeFrame? stream = none ↔ Incomplete stream := by
  match stream with
  | [] => simp [takeFrame?, Octets.take?, Incomplete]
  | [only] => simp [takeFrame?, Octets.take?, Incomplete]
  | high :: low :: rest => simp [takeFrame?_cons_cons, Octets.take?_eq, Incomplete]

/-- What is taken off a stream is its first frame. -/
theorem takeFrame?_eq_some (whole : takeFrame? stream = some (message, rest)) :
    message.length ≤ maxLength ∧ stream = framed message ++ rest := by
  match stream with
  | [] => simp [takeFrame?, Octets.take?] at whole
  | [only] => simp [takeFrame?, Octets.take?] at whole
  | high :: low :: behind =>
      rw [takeFrame?_cons_cons, Octets.take?_eq] at whole
      split at whole
      next enough =>
          obtain ⟨rfl, rfl⟩ := Prod.mk.inj (Option.some.inj whole)
          have high_lt := high.toNat_lt
          have low_lt := low.toNat_lt
          have length : (behind.take (high.toNat * 256 + low.toNat)).length =
              high.toNat * 256 + low.toNat := List.length_take_of_le enough
          refine ⟨by rw [length, maxLength]; omega, ?_⟩
          have high_eq : (high.toNat * 256 + low.toNat) / 256 = high.toNat := by omega
          have low_eq : (high.toNat * 256 + low.toNat) % 256 = low.toNat := by omega
          simp [framed, length, high_eq, low_eq]
      next => cases whole

/-! ## All frames -/

def messagesIn (stream : Octets) : List Octets :=
  match whole : takeFrame? stream with
  | none => []
  | some (message, rest) =>
    have : rest.length < stream.length := length_lt_of_takeFrame? whole
    message :: messagesIn rest
termination_by stream.length

theorem messagesIn_of_incomplete (incomplete : Incomplete stream) : messagesIn stream = [] := by
  have none_whole := takeFrame?_eq_none_iff.mpr incomplete
  rw [messagesIn]
  split
  next => rfl
  next whole =>
      rw [none_whole] at whole
      cases whole

theorem messagesIn_nil : messagesIn [] = [] := messagesIn_of_incomplete trivial

theorem messagesIn_of_whole (whole : takeFrame? stream = some (message, rest)) :
    messagesIn stream = message :: messagesIn rest := by
  rw [messagesIn]
  split
  next none_whole =>
      rw [whole] at none_whole
      cases none_whole
  next whole' =>
      rw [whole] at whole'
      cases whole'
      rfl

theorem Frames.nil (incomplete : Incomplete stream) : Frames stream [] stream :=
  ⟨rfl, List.forall_mem_nil _, incomplete⟩

theorem Frames.empty : Frames [] [] [] := .nil trivial

theorem Frames.cons (fits : message.length ≤ maxLength) (h : Frames rest messages tail) :
    Frames (framed message ++ rest) (message :: messages) tail where
  stream_eq := by
    rw [h.stream_eq, List.flatMap_cons, List.append_assoc]
  fit := by
    intro other mem
    rcases List.mem_cons.mp mem with rfl | mem
    · exact fits
    · exact h.fit other mem
  incomplete := h.incomplete

/-- Every stream holds the messages that its reader finds. -/
theorem exists_frames (stream : Octets) : ∃ tail, Frames stream (messagesIn stream) tail := by
  induction size : stream.length using Nat.strongRecOn generalizing stream with
  | _ length ih =>
      cases whole : takeFrame? stream with
      | none =>
          have incomplete := takeFrame?_eq_none_iff.mp whole
          rw [messagesIn_of_incomplete incomplete]
          exact ⟨stream, .nil incomplete⟩
      | some parts =>
          obtain ⟨message, rest⟩ := parts
          obtain ⟨tail, frames⟩ := ih rest.length (size ▸ length_lt_of_takeFrame? whole) rest rfl
          obtain ⟨fits, stream_eq⟩ := takeFrame?_eq_some whole
          rw [messagesIn_of_whole whole, stream_eq]
          exact ⟨tail, .cons fits frames⟩

theorem Frames.messagesIn_eq (h : Frames stream messages tail) : messagesIn stream = messages := by
  obtain ⟨rfl, fit, incomplete⟩ := h
  induction messages with
  | nil => exact messagesIn_of_incomplete incomplete
  | cons message later ih =>
      have whole := takeFrame?_framed_append (fit message List.mem_cons_self)
        (later.flatMap framed ++ tail)
      rw [List.flatMap_cons, List.append_assoc, messagesIn_of_whole whole,
        ih fun other mem => fit other (List.mem_cons_of_mem message mem)]

/-- A stream holds its messages in one way only. -/
theorem Frames.unique (h : Frames stream messages tail) (h' : Frames stream others rest) :
    others = messages ∧ rest = tail := by
  have same : others = messages := h'.messagesIn_eq.symm.trans h.messagesIn_eq
  subst same
  exact ⟨rfl, List.append_cancel_left (h'.stream_eq.symm.trans h.stream_eq)⟩

/-- What comes later continues the tail. -/
theorem Frames.append (h : Frames stream messages tail) (h' : Frames (tail ++ more) others rest) :
    Frames (stream ++ more) (messages ++ others) rest where
  stream_eq := by
    rw [h.stream_eq, List.append_assoc, h'.stream_eq, List.flatMap_append, List.append_assoc]
  fit := by
    intro message mem
    rcases List.mem_append.mp mem with early | late
    · exact h.fit message early
    · exact h'.fit message late
  incomplete := h'.incomplete

/-- The messages that become whole when more comes are those of the tail and what comes. -/
theorem Frames.drop_messagesIn (h : Frames stream messages tail) (more : Octets) :
    (messagesIn (stream ++ more)).drop (messagesIn stream).length = messagesIn (tail ++ more) := by
  obtain ⟨rest, frames⟩ := exists_frames (tail ++ more)
  rw [(h.append frames).messagesIn_eq, h.messagesIn_eq, List.drop_left]

/-- A message that is whole stays the same whatever comes later. -/
theorem messagesIn_isPrefix (stream more : Octets) :
    messagesIn stream <+: messagesIn (stream ++ more) := by
  obtain ⟨tail, frames⟩ := exists_frames stream
  obtain ⟨tail', frames'⟩ := exists_frames (tail ++ more)
  rw [(frames.append frames').messagesIn_eq]
  exact List.prefix_append _ _

/-- A stream ends inside a message: behind its last frame there is the length of another. -/
def EndsInside (stream : Octets) : Prop :=
  ((messagesIn stream).flatMap framed).length + 2 ≤ stream.length

instance (stream : Octets) : Decidable (EndsInside stream) := inferInstanceAs (Decidable (_ ≤ _))

theorem Frames.endsInside_iff (h : Frames stream messages tail) :
    EndsInside stream ↔ 2 ≤ tail.length := by
  have length := congrArg List.length h.stream_eq
  rw [List.length_append] at length
  rw [EndsInside, h.messagesIn_eq]
  omega

end Tollgate.Dns.Dot
