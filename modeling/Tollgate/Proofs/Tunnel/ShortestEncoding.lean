import Tollgate.Proofs.Tunnel.Varint

/-!
# Shortest encodings

What is written for a value is the shortest of its encodings. It reads back whatever follows it, and
whatever decodes is a value that can be written again, in no more octets than it was read from.

All of this can be computed in words of 64 bits: a value is cut to the length of its encoding and
the length tag is or-ed into it, and the octets that are decoded are shifted in one by one. An
encoding leaves room for its tag, so the tag meets no bit of the value and no bit of the value is
shifted out. `encodeWord?` and `decodeWord?` are these computations, and they are exact.
-/

namespace Tollgate.Tunnel.Varint

variable {value length : Nat} {bytes : Octets} {word : UInt64}

/-! ## The shortest encoding -/

theorem encodedLength_le (mem : length ∈ lengths) (fits : value < 1 <<< (8 * length - 2)) :
    encodedLength value ≤ length := by
  simp only [lengths, List.mem_cons, List.not_mem_nil, or_false] at mem
  unfold encodedLength
  rcases mem with rfl | rfl | rfl | rfl <;>
    · simp only [Nat.reduceMul, Nat.reduceSub, Nat.shiftLeft_eq, Nat.reducePow] at fits
      split_ifs <;> omega

theorem IsEncoding.encodedLength_le (h : IsEncoding value bytes) :
    encodedLength value ≤ bytes.length := by
  obtain ⟨length, mem, fits⟩ := h
  rw [length_encoding]
  exact Varint.encodedLength_le mem fits

/-- Even the longest encodings have no room for a value that is not written. -/
theorem IsEncoding.le_maxValue (h : IsEncoding value bytes) : value ≤ maxValue := by
  obtain ⟨length, mem, fits⟩ := h
  have room : ∀ length ∈ lengths, 1 <<< (8 * length - 2) ≤ maxValue + 1 := by decide
  exact Nat.le_of_lt_succ (Nat.lt_of_lt_of_le fits (room length mem))

theorem write_run_of_le (fits : value ≤ maxValue) (buffer : Octets) :
    (write value).run buffer = .ok () (buffer ++ encoding (encodedLength value) value) := by
  rw [write_run, encode?_of_le fits]

theorem write_run_of_lt (large : maxValue < value) (buffer : Octets) :
    (write value).run buffer = .error .outOfRange buffer := by
  rw [write_run, encode?, if_neg (Nat.not_le.mpr large)]

/-! ## Words -/

/-- A word cut to some octets, with their length tag or-ed into its top bits. -/
def tagged (length : Nat) (word : UInt64) : BitVec (8 * length) :=
  word.toBitVec.setWidth (8 * length) |||
    BitVec.ofNat (8 * length) (lengthTag length) <<< (8 * length - 2)

def encodeWord? (word : UInt64) : Option Octets :=
  if word ≤ 0x3FFFFFFFFFFFFFFF then
    let length := encodedLength word.toNat
    some (Octets.ofNat length (tagged length word).toNat)
  else none

/-- A word with an octet shifted in from below. -/
def shiftIn (word : UInt64) (byte : UInt8) : UInt64 := word <<< 8 ||| byte.toUInt64

/-- The word at the front of a buffer and the length of its encoding. -/
def decodeWord? (buffer : Octets) : Option (UInt64 × Nat) := do
  let first ← buffer.head?
  let length := 1 <<< (first >>> 6).toNat
  if buffer.length < length then none
  else
    let rest := (buffer.take length).drop 1
    some (rest.foldl shiftIn (first &&& 0x3F).toUInt64, length)

theorem lengthTag_lt (length : Nat) : lengthTag length < 4 := by
  unfold lengthTag
  split <;> decide

/-- Neither the value nor its tag loses a bit, and they share none. -/
theorem toNat_tagged (nonempty : 0 < length) (fits : word.toNat < 1 <<< (8 * length - 2)) :
    (tagged length word).toNat = (lengthTag length <<< (8 * length - 2)) + word.toNat := by
  have width : 2 ^ (8 * length) = 4 * 2 ^ (8 * length - 2) := by
    rw [show 4 = 2 ^ 2 from rfl, ← pow_add]
    congr 1
    omega
  rw [Nat.one_shiftLeft] at fits
  have word_lt : word.toNat < 2 ^ (8 * length) := by omega
  have tag_lt : lengthTag length < 2 ^ (8 * length) := by
    have := lengthTag_lt length
    have := Nat.two_pow_pos (8 * length - 2)
    omega
  have shifted_lt : lengthTag length <<< (8 * length - 2) < 2 ^ (8 * length) := by
    rw [Nat.shiftLeft_eq, width]
    exact Nat.mul_lt_mul_of_pos_right (lengthTag_lt length) (Nat.two_pow_pos _)
  rw [tagged, BitVec.toNat_or, BitVec.toNat_setWidth, BitVec.toNat_shiftLeft, BitVec.toNat_ofNat,
    UInt64.toNat_toBitVec, Nat.mod_eq_of_lt word_lt, Nat.mod_eq_of_lt tag_lt,
    Nat.mod_eq_of_lt shifted_lt, Nat.or_comm, Nat.shiftLeft_add_eq_or_of_lt fits]

theorem encodeWord?_eq (word : UInt64) : encodeWord? word = encode? word.toNat := by
  have in_range : word ≤ 0x3FFFFFFFFFFFFFFF ↔ word.toNat ≤ maxValue := UInt64.le_iff_toNat_le
  simp only [encodeWord?, encode?, in_range]
  by_cases fits : word.toNat ≤ maxValue
  · obtain ⟨mem, lt⟩ := lt_of_encodedLength fits
    rw [if_pos fits, if_pos fits, toNat_tagged (pos_of_mem_lengths mem) lt]
  · rw [if_neg fits, if_neg fits]

theorem toNat_shiftIn (room : word.toNat < 2 ^ 56) (byte : UInt8) :
    (shiftIn word byte).toNat = word.toNat * 256 + byte.toNat := by
  have shifted_lt : word.toNat <<< 8 < 2 ^ 64 := by
    rw [Nat.shiftLeft_eq]
    omega
  have byte_lt : byte.toNat < 2 ^ 8 := byte.toNat_lt
  have shifted : (word <<< 8).toNat = word.toNat <<< 8 := by
    rw [UInt64.toNat_shiftLeft]
    exact Nat.mod_eq_of_lt shifted_lt
  rw [shiftIn, UInt64.toNat_or, shifted, UInt8.toNat_toUInt64,
    ← Nat.shiftLeft_add_eq_or_of_lt byte_lt, Nat.shiftLeft_eq]

/-- Octets are shifted into a word without a loss while there is room for them. -/
theorem toNat_foldl_shiftIn (room : (word.toNat + 1) * 256 ^ bytes.length ≤ 2 ^ 64) :
    (bytes.foldl shiftIn word).toNat =
      bytes.foldl (fun value byte => value * 256 + byte.toNat) word.toNat := by
  -- One octet less is to come, and what came fills one octet more: the room is the same.
  induction bytes generalizing word with
  | nil => rfl
  | cons byte bytes ih =>
      have byte_lt := byte.toNat_lt
      rw [List.length_cons, pow_succ', ← mul_assoc] at room
      have positive : 1 ≤ 256 ^ bytes.length := Nat.one_le_pow _ _ (by decide)
      have here : (word.toNat + 1) * 256 ≤ 2 ^ 64 :=
        Nat.le_trans (Nat.le_mul_of_pos_right _ positive) room
      have small : word.toNat < 2 ^ 56 := by omega
      have shifted := toNat_shiftIn small byte
      have later : ((shiftIn word byte).toNat + 1) * 256 ^ bytes.length ≤ 2 ^ 64 := by
        refine Nat.le_trans (Nat.mul_le_mul_right _ ?_) room
        omega
      rw [List.foldl_cons, List.foldl_cons, ih later, shifted]

theorem announcedLength_le (first : UInt8) : announcedLength first ≤ 8 := by
  rcases announcedLength_cases first with ⟨-, length⟩ | ⟨-, length⟩ | ⟨-, length⟩ | ⟨-, length⟩ <;>
    omega

theorem decodeWord?_eq (buffer : Octets) :
    (decodeWord? buffer).map (fun (word, count) => (word.toNat, count)) = decode? buffer := by
  cases buffer with
  | nil => rfl
  | cons first stream =>
      have announced : 1 <<< (first >>> 6).toNat = announcedLength first := by
        rw [announcedLength, UInt8.toNat_shiftRight, Nat.shiftRight_eq_div_pow]
        rfl
      have start : (first &&& 0x3F).toUInt64.toNat = first.toNat % 64 := by
        rw [UInt8.toNat_toUInt64, UInt8.toNat_and]
        exact Nat.and_two_pow_sub_one_eq_mod first.toNat 6
      simp only [decodeWord?, decode?, List.head?_cons, Option.bind_eq_bind, Option.bind_some,
        announced]
      split
      · rfl
      · have start_lt : (first &&& 0x3F).toUInt64.toNat + 1 ≤ 2 ^ 6 := by omega
        have few : (((first :: stream).take (announcedLength first)).drop 1).length ≤ 7 := by
          have := announcedLength_le first
          rw [List.length_drop, List.length_take]
          omega
        have room := Nat.mul_le_mul start_lt (Nat.pow_le_pow_right (by decide : 0 < 256) few)
        rw [Option.map_some, toNat_foldl_shiftIn (Nat.le_trans room (by decide)), start]

/-! ## Writing and decoding -/

/-- A value below 2^62 is written as so many octets as its encoded length says, behind what the
buffer holds. They decode to the value whatever follows them, and nothing shorter does. What decodes
is a value below 2^62, and is written again in no more octets than it was read from. Larger values
are refused, and the buffer stays as it was. Computing with words of 64 bits makes no difference. -/
theorem shortest_encoding_round_trip :
    (∀ value < 2 ^ 62, ∃ bytes, bytes.length = encodedLength value ∧
      (∀ buffer, (write value).run buffer = .ok () (buffer ++ bytes)) ∧
      (∀ rest, decode? (bytes ++ rest) = some (value, encodedLength value)) ∧
      ∀ other count, decode? other = some (value, count) → encodedLength value ≤ count) ∧
    (∀ stream value count, decode? stream = some (value, count) →
      value < 2 ^ 62 ∧
      ∃ bytes, bytes.length ≤ count ∧
        ∀ buffer, (write value).run buffer = .ok () (buffer ++ bytes)) ∧
    (∀ value, 2 ^ 62 ≤ value → ∀ buffer, (write value).run buffer = .error .outOfRange buffer) ∧
    (∀ word : UInt64, encodeWord? word = encode? word.toNat) ∧
    ∀ buffer, (decodeWord? buffer).map (fun (word, count) => (word.toNat, count)) =
      decode? buffer := by
  refine ⟨?_, ?_, ?_, encodeWord?_eq, decodeWord?_eq⟩
  · intro value small
    have fits : value ≤ maxValue := Nat.le_of_lt_succ small
    have isEncoding := isEncoding_of_encode? (encode?_of_le fits)
    refine ⟨_, length_encoding _ _, write_run_of_le fits, ?_, ?_⟩
    · intro rest
      rw [isEncoding.decode?_append, length_encoding]
    · intro other count decoded
      obtain ⟨bytes, rest, -, rfl, isOther⟩ := exists_isEncoding_of_decode? decoded
      exact isOther.encodedLength_le
  · intro stream value count decoded
    obtain ⟨bytes, rest, -, rfl, isEncoding⟩ := exists_isEncoding_of_decode? decoded
    have fits := isEncoding.le_maxValue
    refine ⟨Nat.lt_succ_of_le fits, _, ?_, write_run_of_le fits⟩
    rw [length_encoding]
    exact isEncoding.encodedLength_le
  · intro value large
    exact write_run_of_lt large

/-- The first value that needs four octets, which also decodes from eight, and the first value that
has no encoding. -/
theorem first_of_four_octets_round_trip :
    16384 < 2 ^ 62 ∧
    (∃ bytes, bytes.length = 4 ∧ (write 16384).run [1] = .ok () ([1] ++ bytes) ∧
      decode? (bytes ++ [0xFF]) = some (16384, 4)) ∧
    decode? [0xC0, 0, 0, 0, 0, 0, 0x40, 0] = some (16384, 8) ∧ encodedLength 16384 ≤ 8 ∧
    (∃ bytes, bytes.length ≤ 8 ∧ (write 16384).run [] = .ok () ([] ++ bytes)) ∧
    2 ^ 62 ≤ 2 ^ 62 ∧ (write (2 ^ 62)).run [1] = .error .outOfRange [1] := by
  obtain ⟨writes, rewrites, refuses, -⟩ := shortest_encoding_round_trip
  have small : 16384 < 2 ^ 62 := by decide
  have long : decode? [0xC0, 0, 0, 0, 0, 0, 0x40, 0] = some (16384, 8) := by decide
  obtain ⟨bytes, length, written, decoded, shortest⟩ := writes 16384 small
  obtain ⟨-, again, short, rewritten⟩ := rewrites _ _ _ long
  exact ⟨small, ⟨bytes, length, written [1], decoded [0xFF]⟩, long, shortest _ _ long,
    ⟨again, short, rewritten []⟩, Nat.le_refl _, refuses _ (Nat.le_refl _) [1]⟩

end Tollgate.Tunnel.Varint
