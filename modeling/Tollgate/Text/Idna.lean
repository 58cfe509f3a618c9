import Tollgate.Text.Ascii
import Tollgate.Text.Punycode
import Tollgate.Text.Split

/-!
# Internationalised labels

A name is first mapped to the characters that it stands for, and then each of its labels has to be
valid. A label beyond ASCII is written in ASCII with the mark `xn--` in front of its Punycode form,
and what has that mark has to be such a form.

What is mapped to what and what is valid is told by the tables of Unicode, which are large and grow.
`Rules` takes them as given, with the little that holds of each version.
-/

namespace Tollgate.Text.Idna

/-- The mark in front of Punycode forms. -/
def mark : List Char := ['x', 'n', '-', '-']

/-- The tables that names are mapped and validated by. -/
structure Rules where
  /-- A text with its characters replaced by those that they stand for, and composed. -/
  mapped? : List Char → Option (List Char)
  /-- Whether a label is valid by itself. -/
  isLabel : List Char → Bool
  /-- Whether valid labels may stand in one name, whichever way each of them runs. -/
  isName : List (List Char) → Bool
  /-- Of ASCII characters only capitals are mapped. -/
  mapped?_ascii : ∀ text form, (∀ c ∈ text, c.toNat < 128) → mapped? text = some form →
    form = text.map Char.toLower
  /-- Capitals of ASCII are mapped to what their small letters are mapped to. -/
  mapped?_lower : ∀ text, mapped? (text.map Char.toLower) = mapped? text
  /-- Nothing is composed with the mark. -/
  mapped?_mark : ∀ rest, mapped? (mark ++ rest) = (mapped? rest).map (mark ++ ·)
  /-- A valid label stands for itself. -/
  mapped?_of_isLabel : ∀ label, isLabel label = true → mapped? label = some label
  dot_not_mem : ∀ label, isLabel label = true → '.' ∉ label

namespace Rules

variable (rules : Rules)

/-- The valid label that stands behind the mark in its Punycode form. -/
def unmarked? (form : List Char) : Option (List Char) := do
  let label ← Punycode.decode? form
  if rules.isLabel label && !isAscii label && Punycode.encode label = form then some label
  else none

/-- The label that a part of a mapped text is. -/
def label? (part : List Char) : Option (List Char) :=
  match dropStart? mark part with
  | some form => rules.unmarked? form
  | none => if rules.isLabel part then some part else none

/-- The labels of a text, any of which may be empty. -/
def labels? (text : List Char) : Option (List (List Char)) := do
  let labels ← (split '.' (← rules.mapped? text)).mapM rules.label?
  if rules.isName labels then some labels else none

def toUnicode? (text : List Char) : Option (List Char) := (rules.labels? text).map (join '.')

end Rules

def asciiLabel (label : List Char) : List Char :=
  if isAscii label then label else mark ++ Punycode.encode label

namespace Rules

variable (rules : Rules)

def toAscii? (text : List Char) : Option (List Char) :=
  (rules.labels? text).map fun labels => join '.' (labels.map asciiLabel)

variable {rules} {text form part label : List Char}

theorem of_unmarked? (read : rules.unmarked? form = some label) :
    rules.isLabel label = true ∧ isAscii label = false ∧ Punycode.encode label = form := by
  simp only [unmarked?, Option.bind_eq_bind, Option.bind_eq_some_iff,
    Option.ite_none_right_eq_some, Option.some.injEq, Bool.and_eq_true, decide_eq_true_eq,
    Bool.not_eq_true'] at read
  obtain ⟨_, -, ⟨⟨valid, foreign⟩, encoded⟩, rfl⟩ := read
  exact ⟨valid, foreign, encoded⟩

/-! ## ASCII texts -/

theorem asciiLabel_of_label? (ascii : ∀ c ∈ part, c.toNat < 128)
    (read : rules.label? part = some label) : asciiLabel label = part := by
  unfold label? at read
  split at read
  next form marked =>
    obtain ⟨-, foreign, rfl⟩ := of_unmarked? read
    rw [asciiLabel, foreign, eq_append_of_dropStart? marked]
    rfl
  next =>
    rw [← Option.some.inj (Option.ite_none_right_eq_some.mp read).2, asciiLabel,
      isAscii_iff.mpr ascii, if_pos rfl]

theorem map_asciiLabel_of_mapM {parts labels : List (List Char)}
    (ascii : ∀ part ∈ parts, ∀ c ∈ part, c.toNat < 128)
    (read : parts.mapM rules.label? = some labels) : labels.map asciiLabel = parts := by
  induction parts generalizing labels with
  | nil =>
    obtain rfl : labels = [] := by simpa using read.symm
    rfl
  | cons part more ih =>
    simp only [List.mapM_cons, Option.bind_eq_bind, Option.bind_eq_some_iff, Option.pure_def,
      Option.some.injEq] at read
    obtain ⟨first, first_eq, rest, rest_eq, rfl⟩ := read
    rw [List.map_cons, asciiLabel_of_label? (ascii part List.mem_cons_self) first_eq,
      ih (fun other mem => ascii other (List.mem_cons_of_mem part mem)) rest_eq]

/-- The ASCII form of an ASCII text is the text in lower case. -/
theorem toAscii?_of_ascii (ascii : ∀ c ∈ text, c.toNat < 128)
    (written : rules.toAscii? text = some form) : form = text.map Char.toLower := by
  simp only [toAscii?, labels?, Option.bind_eq_bind, Option.map_eq_some_iff,
    Option.bind_eq_some_iff, Option.ite_none_right_eq_some, Option.some.injEq] at written
  obtain ⟨_, ⟨mapped, mapped_eq, labels, labels_eq, -, rfl⟩, rfl⟩ := written
  obtain rfl := rules.mapped?_ascii _ _ ascii mapped_eq
  rw [map_asciiLabel_of_mapM ?_ labels_eq, join_split]
  intro part isPart c mem
  obtain ⟨c, isChar, rfl⟩ := List.mem_map.mp (mem_of_mem_split isPart mem)
  exact of_ascii (P := fun c => c.toLower.toNat < 128) (by decide +kernel) (ascii c isChar)

end Rules

end Tollgate.Text.Idna

namespace Tollgate.Text

/-- The rules for the two uses of names. -/
structure Idna where
  /-- For names that are shown. -/
  shown : Idna.Rules
  /-- For names that are typed. Fewer labels are valid, and fewer characters stand for
  themselves. -/
  typed : Idna.Rules

end Tollgate.Text
