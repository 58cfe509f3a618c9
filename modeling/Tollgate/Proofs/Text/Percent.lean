import Tollgate.Text.Ascii
import Tollgate.Text.Percent
import Mathlib.Data.List.Basic

/-!
# Texts that percent decoding leaves alone

Decoding makes a text shorter for each escape in it, and changes nothing else. So a text stands for
itself exactly if it has no escape, or if it has some and they spell no text, so that it is taken as
it is.
-/

namespace Tollgate

theorem Octets.eq_ofText_of_text? {bytes : Octets} {text : String} (h : bytes.text? = some text) :
    bytes = ofText text := by
  unfold text? String.fromUTF8? at h
  split at h
  next valid =>
      obtain rfl := Option.some.inj h
      simp [ofText, String.fromUTF8, String.toUTF8]
  next => cases h

theorem Octets.ofText_inj {text other : String} : ofText text = ofText other ↔ text = other := by
  constructor
  · intro same
    have read := congrArg text? same
    rw [text?_ofText, text?_ofText] at read
    exact Option.some.inj read
  · rintro rfl
    rfl

theorem Octets.length_ofText (text : String) : (ofText text).length = text.utf8ByteSize := by
  simp [ofText]

theorem Octets.ofText_eq_flatMap (text : String) :
    ofText text = text.toList.flatMap String.utf8EncodeChar := by
  rw [← String.ofList_toList (s := text), ofText, String.toUTF8_eq_toByteArray,
    String.toByteArray_ofList, List.utf8Encode, List.data_toByteArray, String.toList_ofList]

theorem Text.Utf8.utf8EncodeChar_of_ascii {c : Char} (ascii : c.toNat < 128) :
    String.utf8EncodeChar c = [c.toNat.toUInt8] :=
  of_ascii (P := fun c => String.utf8EncodeChar c = [c.toNat.toUInt8]) (by decide +kernel)
    ascii

theorem Octets.ofText_of_ascii {text : String} (ascii : ∀ c ∈ text.toList, c.toNat < 128) :
    ofText text = text.toList.map fun c => c.toNat.toUInt8 := by
  rw [ofText_eq_flatMap]
  generalize text.toList = chars at ascii
  induction chars with
  | nil => rfl
  | cons c rest ih =>
      obtain ⟨here, later⟩ := List.forall_mem_cons.mp ascii
      rw [List.flatMap_cons, Text.Utf8.utf8EncodeChar_of_ascii here, List.map_cons, ih later,
        List.singleton_append]

theorem Text.utf8ByteSize_le_of_prefix {front text : List Char} (starts : front <+: text) :
    (String.ofList front).utf8ByteSize ≤ (String.ofList text).utf8ByteSize := by
  obtain ⟨rest, rfl⟩ := starts
  rw [String.ofList_append, String.utf8ByteSize_append]
  exact Nat.le_add_right _ _

/-- A text is no longer than its beginning only if that is all of it. -/
theorem Text.eq_of_prefix {front text : List Char} (starts : front <+: text)
    (long : (String.ofList text).utf8ByteSize ≤ (String.ofList front).utf8ByteSize) :
    front = text := by
  obtain ⟨rest, rfl⟩ := starts
  rw [String.ofList_append, String.utf8ByteSize_append] at long
  have nothing : String.ofList rest = "" := String.utf8ByteSize_eq_zero_iff.mp (by omega)
  obtain rfl : rest = [] := by simpa using nothing
  exact (List.append_nil front).symm

namespace Text.Percent

/-- There is a percent sign with two hexadecimal digits behind it. -/
def HasEscape (bytes : Octets) : Prop :=
  ∃ before high low behind, bytes = before ++ 0x25 :: high :: low :: behind ∧
    (hexValue? high).isSome ∧ (hexValue? low).isSome

variable {byte high low : UInt8} {bytes rest : Octets} {text : String}

theorem not_hasEscape_nil : ¬ HasEscape [] := by
  rintro ⟨before, high, low, behind, eq, -⟩
  cases before <;> cases eq

theorem HasEscape.cons (h : HasEscape rest) (byte : UInt8) : HasEscape (byte :: rest) := by
  obtain ⟨before, high, low, behind, rfl, isHigh, isLow⟩ := h
  exact ⟨byte :: before, high, low, behind, rfl, isHigh, isLow⟩

/-- An escape is at the front or behind it. -/
theorem hasEscape_cons (h : HasEscape (byte :: rest)) :
    (byte = 0x25 ∧ ∃ high low behind, rest = high :: low :: behind ∧
      (hexValue? high).isSome ∧ (hexValue? low).isSome) ∨ HasEscape rest := by
  obtain ⟨before, high, low, behind, eq, isHigh, isLow⟩ := h
  cases before with
  | nil =>
      obtain ⟨rfl, rfl⟩ := List.cons.inj eq
      exact .inl ⟨rfl, high, low, behind, rfl, isHigh, isLow⟩
  | cons first before =>
      obtain ⟨-, rfl⟩ := List.cons.inj eq
      exact .inr ⟨before, high, low, behind, rfl, isHigh, isLow⟩

/-- Decoding makes a text shorter for its escapes, and leaves a text without escapes as it is. -/
inductive Decoded (bytes : Octets) : Prop where
  | shortened (escaped : HasEscape bytes) (shorter : (decode bytes).length < bytes.length)
  | kept (plain : ¬ HasEscape bytes) (same : decode bytes = bytes)

/-- An octet that no escape starts with stays in front. -/
theorem Decoded.cons (step : decode (byte :: rest) = byte :: decode rest)
    (behind : HasEscape (byte :: rest) → HasEscape rest) (h : Decoded rest) :
    Decoded (byte :: rest) := by
  cases h with
  | shortened escaped shorter =>
      refine .shortened (escaped.cons byte) ?_
      rw [step]
      exact Nat.succ_lt_succ shorter
  | kept plain same =>
      refine .kept (plain ∘ behind) ?_
      rw [step, same]

theorem decoded (bytes : Octets) : Decoded bytes := by
  induction bytes using decode.induct with
  | case1 high low rest h l isLow isHigh ih =>
      have step : decode (0x25 :: high :: low :: rest) = (h * 16 + l).toUInt8 :: decode rest := by
        simp only [decode, isHigh, isLow]
      refine .shortened ⟨[], high, low, rest, rfl, by simp [isHigh], by simp [isLow]⟩ ?_
      rw [step]
      cases ih with
      | shortened escaped shorter =>
          simp only [List.length_cons]
          omega
      | kept plain same =>
          rw [same]
          simp only [List.length_cons]
          omega
  | case2 high low rest noEscape ih =>
      have step : decode (0x25 :: high :: low :: rest) = 0x25 :: decode (high :: low :: rest) := by
        rw [decode]
        split
        next h l isHigh isLow => exact (noEscape h l isHigh isLow).elim
        next => rfl
      refine .cons step ?_ ih
      intro escaped
      rcases hasEscape_cons escaped with ⟨-, high', low', behind, eq, isHigh, isLow⟩ | escaped
      · obtain ⟨rfl, rfl, rfl⟩ : high = high' ∧ low = low' ∧ rest = behind := by simpa using eq
        obtain ⟨h, isHigh⟩ := Option.isSome_iff_exists.mp isHigh
        obtain ⟨l, isLow⟩ := Option.isSome_iff_exists.mp isLow
        exact (noEscape h l isHigh isLow).elim
      · exact escaped
  | case3 byte rest noEscape ih =>
      have step : decode (byte :: rest) = byte :: decode rest := by
        rw [decode]
        exact noEscape
      refine .cons step ?_ ih
      intro escaped
      rcases hasEscape_cons escaped with ⟨isPercent, high, low, behind, eq, -, -⟩ | escaped
      · exact (noEscape high low behind isPercent eq).elim
      · exact escaped
  | case4 => exact .kept not_hasEscape_nil (by rw [decode])

theorem decode_eq_self_iff : decode bytes = bytes ↔ ¬ HasEscape bytes := by
  cases decoded bytes with
  | shortened escaped shorter =>
      constructor
      · intro same
        rw [same] at shorter
        exact absurd shorter (Nat.lt_irrefl _)
      · intro plain
        exact absurd escaped plain
  | kept plain same => exact iff_of_true same plain

theorem length_decode_le (bytes : Octets) : (decode bytes).length ≤ bytes.length := by
  cases decoded bytes with
  | shortened escaped shorter => exact Nat.le_of_lt shorter
  | kept plain same => exact Nat.le_of_eq (congrArg List.length same)

theorem not_hasEscape_of_ascii (ascii : ∀ c ∈ text.toList, c.toNat < 128)
    (plain : '%' ∉ text.toList) : ¬ HasEscape (Octets.ofText text) := by
  rintro ⟨before, high, low, behind, eq, -⟩
  have mem : (0x25 : UInt8) ∈ Octets.ofText text := by
    rw [eq]
    exact List.mem_append_right before List.mem_cons_self
  rw [Octets.ofText_of_ascii ascii] at mem
  obtain ⟨c, isChar, code⟩ := List.mem_map.mp mem
  have isPercent : c.toNat.toUInt8 = 0x25 → c = '%' :=
    of_ascii (P := fun c => c.toNat.toUInt8 = 0x25 → c = '%') (by decide +kernel)
      (ascii c isChar)
  exact plain (isPercent code ▸ isChar)

/-- A text is its own decoding exactly if it has no escape. -/
theorem decodeText?_eq_self_iff :
    decodeText? text = some text ↔ ¬ HasEscape (Octets.ofText text) := by
  rw [← decode_eq_self_iff, decodeText?]
  constructor
  · intro same
    exact Octets.eq_ofText_of_text? same
  · intro same
    rw [same, Octets.text?_ofText]

/-- What a text stands for: its decoding, or the text as it is if that is no text. -/
def meaning (text : String) : String := (decodeText? text).getD text

/-- A text that stands for itself: it has no escape, or its escapes spell no text. -/
def IsLiteral (text : String) : Prop :=
  HasEscape (Octets.ofText text) → decodeText? text = none

theorem meaning_eq_self_iff : meaning text = text ↔ IsLiteral text := by
  unfold meaning IsLiteral
  cases read : decodeText? text with
  | none => simp
  | some other =>
      rw [Option.getD_some]
      constructor
      · rintro rfl escaped
        exact absurd escaped (decodeText?_eq_self_iff.mp read)
      · intro literal
        by_cases escaped : HasEscape (Octets.ofText text)
        · cases literal escaped
        · rw [decodeText?_eq_self_iff.mpr escaped] at read
          exact (Option.some.inj read).symm

/-- No text stands for a longer one. -/
theorem utf8ByteSize_meaning_le (text : String) :
    (meaning text).utf8ByteSize ≤ text.utf8ByteSize := by
  unfold meaning
  cases read : decodeText? text with
  | none => exact Nat.le_refl _
  | some other =>
      rw [Option.getD_some, ← Octets.length_ofText, ← Octets.length_ofText text,
        ← Octets.eq_ofText_of_text? read]
      exact length_decode_le _

end Text.Percent

end Tollgate
