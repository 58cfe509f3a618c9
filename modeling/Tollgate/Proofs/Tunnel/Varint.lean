import Tollgate.Proofs.Octets
import Tollgate.Tunnel.Varint

/-!
# Encodings of integers

`IsEncoding` says which octets encode a value without reading them: a length tag with the value
behind it, in any length that has room for both. A buffer that starts with an encoding decodes to
its value whatever follows, and a buffer that ends inside an encoding does not decode. A value is
taken off a stream exactly if the stream decodes.
-/

namespace Tollgate.Tunnel.Varint

def lengths : List Nat := [1, 2, 4, 8]

theorem pos_of_mem_lengths {length : Nat} (mem : length ∈ lengths) : 0 < length :=
  (by decide : ∀ length ∈ lengths, 0 < length) length mem

/-- A length tag and a value behind it. -/
def encoding (length value : Nat) : Octets :=
  Octets.ofNat length ((lengthTag length <<< (8 * length - 2)) + value)

@[simp] theorem length_encoding (length value : Nat) : (encoding length value).length = length :=
  Octets.length_ofNat _ _

/-- The octets encode a value, in the shortest way or in one of the longer ones. -/
inductive IsEncoding (value : Nat) : Octets → Prop where
  | intro (length : Nat) (mem : length ∈ lengths) (fits : value < 1 <<< (8 * length - 2)) :
      IsEncoding value (encoding length value)

variable {value count : Nat} {first : UInt8} {bytes stream more rest : Octets}

/-! ## Decoding -/

/-- The value that a first octet and the octets behind it spell. -/
def spelled (first : UInt8) (more : Octets) : Nat :=
  first.toNat % 64 * 256 ^ more.length + Octets.toNat more

theorem foldl_eq (start : Nat) (bytes : Octets) :
    bytes.foldl (fun value byte => value * 256 + byte.toNat) start =
      start * 256 ^ bytes.length + Octets.toNat bytes := by
  induction bytes using List.reverseRecOn with
  | nil => simp
  | append_singleton bytes byte ih =>
      rw [List.foldl_append, ih, Octets.toNat_append_singleton, List.length_append,
        List.length_singleton]
      simp only [List.foldl_cons, List.foldl_nil]
      ring

theorem toNat_cons (first : UInt8) (more : Octets) :
    Octets.toNat (first :: more) = first.toNat * 256 ^ more.length + Octets.toNat more := by
  rw [Octets.toNat, List.foldl_cons, foldl_eq, Nat.zero_mul, Nat.zero_add]

theorem announcedLength_pos (first : UInt8) : 0 < announcedLength first := by
  rw [announcedLength, Nat.one_shiftLeft]
  exact Nat.two_pow_pos _

theorem decode?_cons (first : UInt8) (stream : Octets) :
    decode? (first :: stream) =
      (Octets.take? (announcedLength first - 1) stream).map fun (more, _) =>
        (spelled first more, announcedLength first) := by
  obtain ⟨length, announced⟩ := Nat.exists_eq_add_one.mpr (announcedLength_pos first)
  simp only [decode?, List.head?_cons, Option.bind_eq_bind, Option.bind_some, announced,
    List.length_cons, Nat.add_sub_cancel, Octets.take?_eq, Nat.add_lt_add_iff_right]
  by_cases enough : length ≤ stream.length
  · rw [if_neg (Nat.not_lt.mpr enough), if_pos enough, List.take_succ_cons, List.drop_one,
      List.tail_cons, foldl_eq]
    rfl
  · rw [if_pos (Nat.lt_of_not_le enough), if_neg enough]
    rfl

/-- A value is taken off a stream exactly if there is one at its front. -/
theorem read_eq_decode? (nonempty : stream ≠ []) :
    read stream =
      match decode? stream with
      | some (value, length) => .ok (some (value, stream.drop length))
      | none => .error .endedEarly := by
  cases stream with
  | nil => exact absurd rfl nonempty
  | cons first stream =>
      obtain ⟨length, announced⟩ := Nat.exists_eq_add_one.mpr (announcedLength_pos first)
      rw [decode?_cons, read, announced, Nat.add_sub_cancel, Octets.take?_eq]
      by_cases enough : length ≤ stream.length
      · simp [enough, spelled, Nat.shiftLeft_eq, pow_mul]
      · simp [enough]

/-- A length tag announces its length, and what follows the tag spells the value. -/
theorem IsEncoding.eq_cons (h : IsEncoding value bytes) :
    ∃ first more, bytes = first :: more ∧ announcedLength first = more.length + 1 ∧
      spelled first more = value := by
  obtain ⟨length, mem, fits⟩ := h
  obtain ⟨width, rfl⟩ : ∃ width, length = width + 1 :=
    Nat.exists_eq_add_one.mpr (pos_of_mem_lengths mem)
  refine ⟨_, _, Octets.ofNat_succ width _, ?_⟩
  simp only [lengths, List.mem_cons, List.not_mem_nil, or_false, Nat.reduceEqDiff] at mem
  generalize first_eq :
    ((lengthTag (width + 1) <<< (8 * (width + 1) - 2) + value) / 256 ^ width).toUInt8 = first
  have tag : first.toNat / 64 = lengthTag (width + 1) := by
    subst first_eq
    rcases mem with rfl | rfl | rfl | rfl <;>
      · simp [lengthTag, Nat.shiftLeft_eq] at fits ⊢
        omega
  have value_eq : spelled first
      (Octets.ofNat width (lengthTag (width + 1) <<< (8 * (width + 1) - 2) + value)) = value := by
    subst first_eq
    rw [spelled, Octets.length_ofNat, Octets.toNat_ofNat]
    rcases mem with rfl | rfl | rfl | rfl <;>
      · simp [lengthTag, Nat.shiftLeft_eq] at fits ⊢
        omega
  refine ⟨?_, value_eq⟩
  rw [announcedLength, tag, Octets.length_ofNat]
  rcases mem with rfl | rfl | rfl | rfl <;> rfl

theorem IsEncoding.length_pos (h : IsEncoding value bytes) : 0 < bytes.length := by
  obtain ⟨first, more, rfl, -⟩ := h.eq_cons
  exact Nat.succ_pos _

theorem IsEncoding.decode?_append (h : IsEncoding value bytes) (rest : Octets) :
    decode? (bytes ++ rest) = some (value, bytes.length) := by
  obtain ⟨first, more, rfl, announced, rfl⟩ := h.eq_cons
  rw [List.cons_append, decode?_cons, announced, Nat.add_sub_cancel, Octets.take?_append]
  rfl

/-- A part of an encoding does not decode. -/
theorem IsEncoding.decode?_take (h : IsEncoding value bytes) (inside : count < bytes.length) :
    decode? (bytes.take count) = none := by
  obtain ⟨first, more, rfl, announced, -⟩ := h.eq_cons
  cases count with
  | zero => rfl
  | succ count =>
      have short : ¬ more.length ≤ (more.take count).length := by
        rw [List.length_cons] at inside
        rw [List.length_take]
        omega
      rw [List.take_succ_cons, decode?_cons, announced, Nat.add_sub_cancel, Octets.take?_eq,
        if_neg short]
      rfl

/-- A first octet announces the lengths of encodings only, each with its tag. -/
theorem announcedLength_cases (first : UInt8) :
    (first.toNat / 64 = 0 ∧ announcedLength first = 1) ∨
      (first.toNat / 64 = 1 ∧ announcedLength first = 2) ∨
      (first.toNat / 64 = 2 ∧ announcedLength first = 4) ∨
      (first.toNat / 64 = 3 ∧ announcedLength first = 8) := by
  have first_lt := first.toNat_lt
  have tag : first.toNat / 64 = 0 ∨ first.toNat / 64 = 1 ∨ first.toNat / 64 = 2 ∨
      first.toNat / 64 = 3 := by omega
  rcases tag with tag | tag | tag | tag <;> simp [announcedLength, tag]

/-- As many octets as the first one announces encode what they spell. -/
theorem isEncoding_cons (announced : announcedLength first = more.length + 1) :
    IsEncoding (spelled first more) (first :: more) := by
  have more_lt := Octets.toNat_lt more
  have widths := announcedLength_cases first
  rw [announced] at widths
  have mem : more.length + 1 ∈ lengths := by
    rw [lengths]
    rcases widths with ⟨-, length⟩ | ⟨-, length⟩ | ⟨-, length⟩ | ⟨-, length⟩ <;> simp [length]
  have fits : spelled first more < 1 <<< (8 * (more.length + 1) - 2) := by
    rw [spelled]
    rcases widths with ⟨-, length⟩ | ⟨-, length⟩ | ⟨-, length⟩ | ⟨-, length⟩ <;>
      · have length := Nat.succ.inj length
        simp [length, Nat.shiftLeft_eq] at more_lt ⊢
        omega
  have spells : Octets.toNat (first :: more) =
      lengthTag (more.length + 1) <<< (8 * (more.length + 1) - 2) + spelled first more := by
    rw [toNat_cons, spelled]
    rcases widths with ⟨tag, length⟩ | ⟨tag, length⟩ | ⟨tag, length⟩ | ⟨tag, length⟩ <;>
      · have length := Nat.succ.inj length
        simp [length, lengthTag, Nat.shiftLeft_eq]
        omega
  have bytes_eq : encoding (more.length + 1) (spelled first more) = first :: more := by
    rw [encoding, ← spells]
    exact Octets.ofNat_toNat (first :: more)
  rw [← bytes_eq]
  exact .intro _ mem fits

theorem exists_isEncoding_of_decode? (h : decode? stream = some (value, count)) :
    ∃ bytes rest, stream = bytes ++ rest ∧ bytes.length = count ∧ IsEncoding value bytes := by
  cases stream with
  | nil => cases h
  | cons first stream =>
      have positive := announcedLength_pos first
      rw [decode?_cons, Octets.take?_eq] at h
      by_cases enough : announcedLength first - 1 ≤ stream.length
      · rw [if_pos enough] at h
        obtain ⟨rfl, rfl⟩ := Prod.mk.inj (Option.some.inj h)
        have announced : announcedLength first =
            (stream.take (announcedLength first - 1)).length + 1 := by
          rw [List.length_take_of_le enough]
          omega
        refine ⟨first :: stream.take (announcedLength first - 1),
          stream.drop (announcedLength first - 1), ?_, ?_, isEncoding_cons announced⟩
        · rw [List.cons_append, List.take_append_drop]
        · exact announced.symm
      · rw [if_neg enough] at h
        cases h

/-! ## Reading -/

theorem IsEncoding.read_append (h : IsEncoding value bytes) (rest : Octets) :
    read (bytes ++ rest) = .ok (some (value, rest)) := by
  have nonempty : bytes ++ rest ≠ [] := List.append_ne_nil_of_left_ne_nil
    (List.ne_nil_of_length_pos h.length_pos) rest
  rw [read_eq_decode? nonempty, h.decode?_append]
  simp

theorem IsEncoding.read_take (h : IsEncoding value bytes) (begun : 0 < count)
    (inside : count < bytes.length) : read (bytes.take count) = .error .endedEarly := by
  have nonempty : bytes.take count ≠ [] := by
    apply List.ne_nil_of_length_pos
    rw [List.length_take]
    omega
  rw [read_eq_decode? nonempty, h.decode?_take inside]

theorem exists_isEncoding_of_read (h : read stream = .ok (some (value, rest))) :
    ∃ bytes, stream = bytes ++ rest ∧ IsEncoding value bytes := by
  have nonempty : stream ≠ [] := by
    rintro rfl
    cases h
  rw [read_eq_decode? nonempty] at h
  split at h
  next decoded =>
      obtain ⟨bytes, behind, rfl, rfl, isEncoding⟩ := exists_isEncoding_of_decode? decoded
      obtain ⟨rfl, rfl⟩ := Prod.mk.inj (Option.some.inj (Except.ok.inj h))
      exact ⟨bytes, by rw [List.drop_left], isEncoding⟩
  next => cases h

/-! ## Encoding -/

theorem lt_of_encodedLength (fits : value ≤ maxValue) :
    encodedLength value ∈ lengths ∧ value < 1 <<< (8 * encodedLength value - 2) := by
  unfold maxValue at fits
  unfold encodedLength
  split_ifs <;>
    · simp [lengths, Nat.shiftLeft_eq]
      omega

theorem encode?_of_le (fits : value ≤ maxValue) :
    encode? value = some (encoding (encodedLength value) value) := if_pos fits

theorem isEncoding_of_encode? (h : encode? value = some bytes) : IsEncoding value bytes := by
  rw [encode?, Option.ite_none_right_eq_some] at h
  obtain ⟨fits, bytes_eq⟩ := h
  obtain rfl := Option.some.inj bytes_eq
  obtain ⟨mem, lt⟩ := lt_of_encodedLength fits
  exact .intro _ mem lt

/-- A value is written behind what the buffer holds. -/
theorem write_run (value : Nat) (buffer : Octets) :
    (write value).run buffer =
      match encode? value with
      | some bytes => .ok () (buffer ++ bytes)
      | none => .error .outOfRange buffer := by
  unfold write
  cases encode? value with
  | none => rfl
  | some bytes => rfl

end Tollgate.Tunnel.Varint
