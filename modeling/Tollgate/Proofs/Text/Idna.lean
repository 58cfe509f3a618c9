import Tollgate.Proofs.Text.Split
import Tollgate.Text.Idna

/-!
# Labels in Unicode

A label that is shown in Unicode is valid, so it stands for itself, and it is not ASCII. The text
that it was read from has the mark in front and behind it a Punycode form, which is ASCII once it is
mapped. So the one is never the other in another case.
-/

namespace Tollgate.Text.Idna.Rules

variable {rules : Rules} {part label rest : List Char}

/-- The mark belongs to the first part of a text that it is in front of. -/
theorem split_mark {more : List (List Char)} (parts : split '.' rest = part :: more) :
    split '.' (mark ++ rest) = (mark ++ part) :: more := by
  simp [mark, split, parts]

/-- Of a text with the mark, the first label stands there in its Punycode form. -/
theorem of_toUnicode?_mark {shown : List Char}
    (form : rules.toUnicode? (mark ++ rest) = some shown) :
    ∃ mapped part more label others, rules.mapped? (mark ++ rest) = some (mark ++ mapped) ∧
      split '.' mapped = part :: more ∧ rules.unmarked? part = some label ∧
      shown = join '.' (label :: others) := by
  simp only [toUnicode?, labels?, Option.bind_eq_bind, Option.map_eq_some_iff,
    Option.bind_eq_some_iff, Option.ite_none_right_eq_some, Option.some.injEq] at form
  obtain ⟨_, ⟨_, mapped_eq, labels, labels_eq, -, rfl⟩, rfl⟩ := form
  obtain ⟨mapped, -, rfl⟩ :=
    Option.map_eq_some_iff.mp ((rules.mapped?_mark rest).symm.trans mapped_eq)
  obtain ⟨part, more, parts⟩ := List.exists_cons_of_ne_nil (split_ne_nil '.' mapped)
  simp only [split_mark parts, List.mapM_cons, label?, dropStart?_append, Option.bind_eq_bind,
    Option.pure_def, Option.bind_eq_some_iff, Option.some.injEq] at labels_eq
  obtain ⟨label, read, others, -, rfl⟩ := labels_eq
  exact ⟨mapped, part, more, label, others, mapped_eq, parts, read, rfl⟩

/-- The label behind the mark is not the text with the mark, in any case of ASCII letters: the one
is no ASCII, and if it stood for the other it would be. -/
theorem not_lower_eq_of_unmarked? {mapped : List Char} {more : List (List Char)}
    (mapped_eq : rules.mapped? (mark ++ rest) = some (mark ++ mapped))
    (parts : split '.' mapped = part :: more) (read : rules.unmarked? part = some label) :
    (mark ++ rest).map Char.toLower ≠ label.map Char.toLower := by
  intro same
  obtain ⟨valid, foreign, encoded⟩ := of_unmarked? read
  have stands_for : some label = some (mark ++ mapped) := by
    rw [← rules.mapped?_of_isLabel label valid, ← rules.mapped?_lower label, ← same,
      rules.mapped?_lower, mapped_eq]
  obtain rfl := Option.some.inj stands_for
  have whole : '.' ∉ mapped := fun dot =>
    rules.dot_not_mem _ valid (List.mem_append_right _ dot)
  rw [split_eq_singleton whole] at parts
  obtain ⟨rfl, -⟩ := List.cons.inj parts
  have ascii : isAscii (mark ++ mapped) = true := by
    rw [isAscii_iff, List.forall_mem_append]
    refine ⟨by simp [mark], ?_⟩
    rw [← encoded]
    exact Punycode.encode_ascii _
  rw [ascii] at foreign
  cases foreign

end Tollgate.Text.Idna.Rules
