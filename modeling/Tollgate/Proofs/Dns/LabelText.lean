import Tollgate.Dns.Name.Text
import Tollgate.Proofs.Text.Case
import Tollgate.Proofs.Text.Form
import Tollgate.Proofs.Text.Idna

/-!
# The text of labels

A label is octets, of which only the ASCII letters have a case. It is shown as it is if none of its
octets needs an escape and it is not the Punycode form of another text. All other labels are shown
as something else: with a backslash, or in Unicode.
-/

namespace Tollgate

variable {text folded : String} {label : Dns.Label}

/-! ## Octets and case -/

theorem Octets.ofNat_toUInt8 {c : Char} (ascii : c.toNat < 128) :
    Char.ofNat c.toNat.toUInt8.toNat = c :=
  Text.of_ascii (P := fun c => Char.ofNat c.toNat.toUInt8.toNat = c) (by decide +kernel) ascii

theorem Octets.asciiText_ofText (ascii : ∀ c ∈ text.toList, c.toNat < 128) :
    asciiText (ofText text) = text := by
  apply String.toList_inj.mp
  rw [ofText_of_ascii ascii, asciiText, String.toList_ofList, List.map_map]
  exact (List.map_congr_left fun c mem => ofNat_toUInt8 (ascii c mem)).trans (List.map_id _)

namespace Dns.Label

theorem ofNat_lowerOctet (octet : UInt8) :
    Char.ofNat (lowerOctet octet).toNat = (Char.ofNat octet.toNat).toLower :=
  of_octets (P := fun octet =>
    Char.ofNat (lowerOctet octet).toNat = (Char.ofNat octet.toNat).toLower)
    (by decide +kernel) octet

/-- The case of ASCII letters may be lowered before or after octets are taken for characters. -/
theorem asciiText_lower (label : Label) :
    Octets.asciiText label.lower = Text.lowered (Octets.asciiText label) := by
  simp only [Octets.asciiText, lower, Text.lowered, String.toList_ofList, List.map_map]
  congr 1
  exact List.map_congr_left fun octet _ => ofNat_lowerOctet octet

theorem lowerOctet_of_le {octet : UInt8} (large : 128 ≤ (lowerOctet octet).toNat) :
    lowerOctet octet = octet :=
  of_octets (P := fun octet => 128 ≤ (lowerOctet octet).toNat → lowerOctet octet = octet)
    (by decide +kernel) octet large

/-- The character of an ASCII octet, which may be a letter of the other case. -/
theorem utf8EncodeChar_of_lower {octet : UInt8} (small : (lowerOctet octet).toNat < 128) :
    String.utf8EncodeChar (Char.ofNat octet.toNat) = [octet] :=
  of_octets (P := fun octet => (lowerOctet octet).toNat < 128 →
    String.utf8EncodeChar (Char.ofNat octet.toNat) = [octet]) (by decide +kernel) octet small

/-- Octets that are those of a character but for the case are those of another character that is
the same but for the case. -/
theorem exists_char_of_lower {c : Char} {octets : Octets}
    (same : octets.map lowerOctet = String.utf8EncodeChar c) :
    ∃ other : Char, octets = String.utf8EncodeChar other ∧ other.toLower = c := by
  by_cases ascii : c.toNat < 128
  · rw [Text.Utf8.utf8EncodeChar_of_ascii ascii] at same
    obtain ⟨octet, rfl, octet_eq⟩ := List.map_eq_singleton_iff.mp same
    have small : (lowerOctet octet).toNat < 128 := by
      rw [octet_eq]
      exact Nat.lt_of_le_of_lt (Nat.mod_le _ _) ascii
    refine ⟨Char.ofNat octet.toNat, (utf8EncodeChar_of_lower small).symm, ?_⟩
    rw [← ofNat_lowerOctet, octet_eq, Octets.ofNat_toUInt8 ascii]
  · have unchanged : octets.map lowerOctet = octets := by
      refine (List.map_congr_left fun octet mem => ?_).trans (List.map_id octets)
      exact lowerOctet_of_le (Text.Utf8.le_of_mem_utf8EncodeChar ascii (lowerOctet octet)
        (same ▸ List.mem_map_of_mem mem))
    exact ⟨c, unchanged.symm.trans same, Text.toLower_of_not_ascii ascii⟩

theorem exists_chars_of_lower {chars : List Char} {octets : Octets}
    (same : octets.map lowerOctet = chars.flatMap String.utf8EncodeChar) :
    ∃ others : List Char, octets = others.flatMap String.utf8EncodeChar ∧
      others.map Char.toLower = chars := by
  induction chars generalizing octets with
  | nil => exact ⟨[], List.map_eq_nil_iff.mp same, rfl⟩
  | cons c chars ih =>
      obtain ⟨front, back, rfl, front_eq, back_eq⟩ := List.map_eq_append_iff.mp same
      obtain ⟨other, rfl, rfl⟩ := exists_char_of_lower front_eq
      obtain ⟨others, rfl, rfl⟩ := ih back_eq
      exact ⟨other :: others, rfl, rfl⟩

/-- A label whose lower-case form is the octets of a text is itself the octets of a text, which is
the same but for the case. -/
theorem exists_text_of_lower (same : label.lower = Octets.ofText folded) :
    ∃ text, label = Octets.ofText text ∧ Text.lowered text = folded := by
  rw [lower, Octets.ofText_eq_flatMap] at same
  obtain ⟨others, octets_eq, others_eq⟩ := exists_chars_of_lower same
  refine ⟨String.ofList others, ?_, ?_⟩
  · rw [Octets.ofText_eq_flatMap, String.toList_ofList, octets_eq]
  · rw [Text.lowered, String.toList_ofList, others_eq, String.ofList_toList]

/-! ## How labels are shown -/

variable {idna : Text.Idna}

/-- How a label is shown: with escapes, or in Unicode if it is the Punycode form of a text. -/
inductive Shown (label : Label) (idna : Text.Idna) : (text : List Char) → Prop where
  | escaped (noForm : ∀ rest, Text.Utf8.decodeLossy label = Text.Idna.mark ++ rest →
        idna.shown.toUnicode? (Text.Idna.mark ++ rest) = none) :
      Shown label idna (escapedText label)
  | unicode {rest text : List Char} (marked : Text.Utf8.decodeLossy label = Text.Idna.mark ++ rest)
      (form : idna.shown.toUnicode? (Text.Idna.mark ++ rest) = some text) : Shown label idna text

theorem shown_text (label : Label) (idna : Text.Idna) : label.Shown idna (label.text idna) := by
  simp only [text]
  split
  next marked =>
    have marked := Text.eq_append_of_dropStart? marked
    rw [marked]
    cases form : idna.shown.toUnicode? (Text.Idna.mark ++ _) with
    | some text => exact .unicode marked form
    | none =>
        refine .escaped fun rest same => ?_
        rw [marked, List.append_cancel_left_eq] at same
        rwa [← same]
  next unmarked =>
    refine .escaped fun rest same => ?_
    rw [same, Text.dropStart?_append] at unmarked
    cases unmarked

/-- Octets that are shown as they are belong to ASCII, and none of them is a dot. -/
theorem of_isSafeOctet {first : Bool} {octet : UInt8} (safe : isSafeOctet first octet = true) :
    octet.toNat < 128 ∧ Char.ofNat octet.toNat ≠ '.' :=
  of_octets (P := fun octet => ∀ first, isSafeOctet first octet = true →
    octet.toNat < 128 ∧ Char.ofNat octet.toNat ≠ '.') (by decide +kernel) octet first safe

theorem of_isSafe (safe : label.IsSafe) :
    ∀ octet ∈ label, octet.toNat < 128 ∧ Char.ofNat octet.toNat ≠ '.' := by
  cases label with
  | nil => exact List.forall_mem_nil _
  | cons first rest =>
      obtain ⟨front, behind⟩ := safe
      rw [List.forall_mem_cons]
      exact ⟨of_isSafeOctet front, fun octet mem => of_isSafeOctet (behind octet mem)⟩

theorem Shown.exists_ne_dot {text : List Char} (shown : label.Shown idna text)
    (nonempty : label ≠ []) : ∃ c ∈ text, c ≠ '.' := by
  cases shown with
  | escaped => exact exists_ne_dot_of_escapedText nonempty
  | unicode marked form =>
      obtain ⟨_, _, _, unicode, others, -, -, read, rfl⟩ :=
        Text.Idna.Rules.of_toUnicode?_mark form
      obtain ⟨valid, foreign, -⟩ := Text.Idna.Rules.of_unmarked? read
      obtain ⟨c, rest, rfl⟩ := List.exists_cons_of_ne_nil (Text.ne_nil_of_not_isAscii foreign)
      refine ⟨c, Text.mem_join List.mem_cons_self, ?_⟩
      rintro rfl
      exact idna.shown.dot_not_mem _ valid List.mem_cons_self

/-! ## Labels that are shown as they are -/

/-- Nothing is escaped in a label, and it is not shown in Unicode. -/
structure IsPlain (label : Label) (idna : Text.Idna) : Prop where
  safe : label.IsSafe
  noForm : ∀ rest, (Octets.asciiText label).toList = Text.Idna.mark ++ rest →
    idna.shown.toUnicode? (Text.Idna.mark ++ rest) = none

/-- Labels of letters, digits and hyphens are plain, unless they have the mark of Punycode. -/
theorem isPlain_of_unmarked (safe : label.IsSafe)
    (unmarked : ¬ Text.Idna.mark <+: (Octets.asciiText label).toList) : label.IsPlain idna :=
  ⟨safe, fun rest marked => absurd ⟨rest, marked.symm⟩ unmarked⟩

theorem decodeLossy_of_isSafe (safe : label.IsSafe) :
    Text.Utf8.decodeLossy label = (Octets.asciiText label).toList := by
  rw [Text.Utf8.decodeLossy_of_ascii fun octet mem => (of_isSafe safe octet mem).1,
    Octets.asciiText, String.toList_ofList]

theorem IsPlain.text_eq (plain : label.IsPlain idna) :
    label.text idna = (Octets.asciiText label).toList := by
  have shown := label.shown_text idna
  generalize label.text idna = text at shown
  cases shown with
  | escaped => rw [escapedText_of_isSafe plain.safe, Octets.asciiText, String.toList_ofList]
  | unicode marked form =>
      rw [decodeLossy_of_isSafe plain.safe] at marked
      rw [plain.noForm _ marked] at form
      cases form

theorem IsPlain.dot_not_mem (plain : label.IsPlain idna) :
    '.' ∉ (Octets.asciiText label).toList := by
  rw [Octets.asciiText, String.toList_ofList]
  intro mem
  obtain ⟨octet, isOctet, isDot⟩ := List.mem_map.mp mem
  exact (of_isSafe plain.safe octet isOctet).2 isDot

theorem IsPlain.ofText_lower (plain : label.IsPlain idna) :
    Octets.ofText (Octets.asciiText label.lower) = label.lower := by
  apply Octets.ofText_asciiText
  intro octet mem
  obtain ⟨octet, isOctet, rfl⟩ := List.mem_map.mp mem
  exact of_octets (P := fun octet => octet.toNat < 128 → (lowerOctet octet).toNat < 128)
    (by decide +kernel) octet (of_isSafe plain.safe octet isOctet).1

end Dns.Label

end Tollgate
