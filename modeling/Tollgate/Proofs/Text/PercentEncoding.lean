import Tollgate.Proofs.Text.Form

/-!
# Percent encodings are read back

A text may be percent-encoded in many ways: each octet may be escaped, in digits of either case, and
all but percent signs may stand for themselves. Decoding undoes every one of them. The encoder's
choice has letters, digits and a few marks in it, so it fits where other characters have a meaning.
-/

namespace Tollgate

theorem Octets.ofText_eq_nil_iff {text : String} : ofText text = [] ↔ text = "" := by
  rw [← ofText_inj]
  rfl

namespace Text.Percent

variable {byte : UInt8} {bytes text rest : Octets}

/-- A text in which each octet is written as itself or escaped. -/
inductive Encodes : (bytes text : Octets) → Prop where
  | nil : Encodes [] []
  | plain {byte : UInt8} {bytes text : Octets} (notEscape : byte ≠ 0x25)
      (behind : Encodes bytes text) : Encodes (byte :: bytes) (byte :: text)
  | escaped {high low : UInt8} {h l : Nat} {bytes text : Octets}
      (isHigh : hexValue? high = some h) (isLow : hexValue? low = some l)
      (behind : Encodes bytes text) :
      Encodes ((h * 16 + l).toUInt8 :: bytes) (0x25 :: high :: low :: text)

theorem decode_cons_of_ne (other : byte ≠ 0x25) : decode (byte :: rest) = byte :: decode rest := by
  rw [decode]
  rintro high low behind rfl
  exact absurd rfl other

/-- What is written in any of these ways is read back. -/
theorem Encodes.decode_eq (encodes : Encodes bytes text) : decode text = bytes := by
  induction encodes with
  | nil => rw [decode]
  | plain notEscape _ ih => rw [decode_cons_of_ne notEscape, ih]
  | escaped isHigh isLow _ ih => simp only [decode, isHigh, isLow, ih]

theorem decodeText?_of_encodes {source encoded : String}
    (encodes : Encodes (Octets.ofText source) (Octets.ofText encoded)) :
    decodeText? encoded = some source := by
  rw [decodeText?, encodes.decode_eq, Octets.text?_ofText]

/-- Whatever is not empty stands for something. -/
theorem decode_ne_nil (nonempty : bytes ≠ []) : decode bytes ≠ [] := by
  unfold decode
  split
  next => split <;> exact List.cons_ne_nil _ _
  next => exact List.cons_ne_nil _ _
  next => exact absurd rfl nonempty

/-! ## The encoder -/

theorem hexValue?_hexOctet : ∀ n < 16, hexValue? (hexOctet n) = some n := by decide

/-- The encoder writes unreserved octets and escapes. -/
theorem encodes_encode (bytes : Octets) : Encodes bytes (encode bytes) := by
  induction bytes with
  | nil => exact .nil
  | cons byte rest ih =>
      rw [encode, List.flatMap_cons, ← encode]
      split
      next unreserved =>
        refine .plain ?_ ih
        rintro rfl
        exact absurd unreserved (by decide)
      next =>
        have small := byte.toNat_lt
        have high := hexValue?_hexOctet (byte.toNat / 16) (by omega)
        have low := hexValue?_hexOctet (byte.toNat % 16) (Nat.mod_lt _ (by decide))
        have same : byte.toNat.toUInt8 = byte := UInt8.ofNat_toNat
        have encodes := Encodes.escaped high low ih
        rwa [Nat.div_add_mod', same] at encodes

/-- There is nothing else in what the encoder writes. -/
theorem of_mem_encode (mem : byte ∈ encode bytes) : isUnreserved byte = true ∨ byte = 0x25 := by
  have digits : ∀ n < 16, isUnreserved (hexOctet n) = true := by decide
  obtain ⟨source, -, written⟩ := List.mem_flatMap.mp mem
  split at written
  next unreserved =>
    rw [List.mem_singleton.mp written]
    exact Or.inl unreserved
  next =>
    have small := source.toNat_lt
    rcases List.mem_cons.mp written with percent | digit
    · exact Or.inr percent
    · rcases List.mem_cons.mp digit with rfl | digit
      · exact Or.inl (digits _ (by omega))
      · rw [List.mem_singleton.mp digit]
        exact Or.inl (digits _ (Nat.mod_lt _ (by decide)))

theorem ascii_of_mem_encode (mem : byte ∈ encode bytes) :
    byte.toNat < 128 ∧ Char.ofNat byte.toNat ≠ '/' := by
  have all : ∀ n < 256, isUnreserved n.toUInt8 = true ∨ n.toUInt8 = 0x25 →
      n < 128 ∧ Char.ofNat n ≠ '/' := by decide +kernel
  have same : byte.toNat.toUInt8 = byte := UInt8.ofNat_toNat
  have written := of_mem_encode mem
  rw [← same] at written
  exact all byte.toNat byte.toNat_lt written

def encodeText (text : String) : String := Octets.asciiText (encode (Octets.ofText text))

theorem ofText_encodeText (text : String) :
    Octets.ofText (encodeText text) = encode (Octets.ofText text) :=
  Octets.ofText_asciiText fun _ mem => (ascii_of_mem_encode mem).1

theorem slash_not_mem_encodeText (text : String) : '/' ∉ (encodeText text).toList := by
  intro mem
  rw [encodeText, Octets.asciiText, String.toList_ofList] at mem
  obtain ⟨byte, isByte, isSlash⟩ := List.mem_map.mp mem
  exact (ascii_of_mem_encode isByte).2 isSlash

end Text.Percent

end Tollgate
