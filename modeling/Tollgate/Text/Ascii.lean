/-!
# ASCII

Facts about ASCII characters are checked one character at a time. Beyond ASCII no letter has a case
here.
-/

namespace Tollgate.Text

/-- What can be checked of each ASCII character is so of all. -/
theorem of_ascii {P : Char → Prop} (all : ∀ n < 128, P (Char.ofNat n)) {c : Char}
    (ascii : c.toNat < 128) : P c := by
  have this := all c.toNat ascii
  rwa [Char.ofNat_toNat] at this

theorem toLower_of_not_ascii {c : Char} (foreign : ¬ c.toNat < 128) : c.toLower = c :=
  dif_neg fun upper => foreign (Nat.lt_of_le_of_lt upper.2 (by decide))

def isAscii (text : List Char) : Bool := text.all (·.toNat < 128)

theorem isAscii_iff {text : List Char} : isAscii text = true ↔ ∀ c ∈ text, c.toNat < 128 := by
  simp [isAscii]

theorem ne_nil_of_not_isAscii {text : List Char} (foreign : isAscii text = false) : text ≠ [] := by
  rintro rfl
  cases foreign

end Tollgate.Text
