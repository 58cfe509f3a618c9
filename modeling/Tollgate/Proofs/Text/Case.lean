import Tollgate.Text.Ascii

/-!
# The case of ASCII letters

Lowering the case changes upper-case ASCII letters into lower-case ones, and nothing else. So the
characters that separate the parts of a text stay where they are.
-/

namespace Tollgate.Text

variable {c other : Char}

theorem toLower_cases (c : Char) :
    c.toLower = c ∨ (c.isUpper = true ∧ c.toLower.isLower = true) := by
  by_cases ascii : c.toNat < 128
  · exact of_ascii
      (P := fun c => c.toLower = c ∨ (c.isUpper = true ∧ c.toLower.isLower = true))
      (by decide +kernel) ascii
  · exact Or.inl (toLower_of_not_ascii ascii)

/-- Only a character itself becomes it, if it is no letter of ASCII. -/
theorem toLower_eq_iff (noLetter : other.isUpper = false ∧ other.isLower = false) :
    c.toLower = other ↔ c = other := by
  rcases toLower_cases c with same | ⟨upper, lower⟩
  · rw [same]
  · constructor
    · rintro rfl
      rw [noLetter.2] at lower
      cases lower
    · rintro rfl
      rw [noLetter.1] at upper
      cases upper

/-- A text with its ASCII letters in lower case. -/
def lowered (text : String) : String := String.ofList (text.toList.map Char.toLower)

end Tollgate.Text
