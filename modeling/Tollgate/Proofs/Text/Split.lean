import Tollgate.Text.Split
import Mathlib.Data.List.TakeWhile

/-!
# Texts between separators

Splitting at a separator loses the separators and nothing else. What stands before the first one,
and what stands behind the last one, is told by it alone: what follows the first separator does not
change the former, and what precedes the last one does not change the latter.
-/

namespace Tollgate.Text

variable {α : Type} [DecidableEq α] {separator : α} {front : List α}

/-! ## All parts -/

theorem split_eq_splitOn (separator : α) (text : List α) :
    split separator text = text.splitOn separator := by
  induction text with
  | nil => rw [split, List.splitOn_nil]
  | cons c rest ih =>
      rw [split, ih, List.splitOn_cons_eq_if_modifyHead]
      simp only [beq_iff_eq]
      split
      · rfl
      · cases parts : rest.splitOn separator with
        | nil => exact absurd parts (List.splitOn_ne_nil separator rest)
        | cons part parts => rfl

theorem split_append (separator : α) (front back : List α) :
    split separator (front ++ separator :: back) =
      split separator front ++ split separator back := by
  rw [split_eq_splitOn, split_eq_splitOn, split_eq_splitOn, List.splitOn_append_cons_self]

theorem split_eq_singleton (absent : separator ∉ front) : split separator front = [front] := by
  rw [split_eq_splitOn, List.splitOn_eq_singleton absent]

theorem not_mem_of_mem_split {text part : List α} (isPart : part ∈ split separator text) :
    separator ∉ part := by
  induction text generalizing part with
  | nil =>
      rw [List.mem_singleton.mp isPart]
      exact List.not_mem_nil
  | cons c rest ih =>
      rw [split] at isPart
      by_cases here : c = separator
      · rw [if_pos here] at isPart
        obtain rfl | isPart := List.mem_cons.mp isPart
        · exact List.not_mem_nil
        · exact ih isPart
      · rw [if_neg here] at isPart
        cases parts : split separator rest with
        | nil => exact absurd parts (split_ne_nil separator rest)
        | cons first more =>
            rw [parts] at isPart ih
            obtain rfl | isPart := List.mem_cons.mp isPart
            · exact List.not_mem_cons_of_ne_of_not_mem (Ne.symm here) (ih List.mem_cons_self)
            · exact ih (List.mem_cons_of_mem first isPart)

theorem flatten_split (separator : α) (text : List α) :
    (split separator text).flatten = text.filter (· ≠ separator) := by
  induction text with
  | nil => rfl
  | cons c rest ih =>
      rw [split]
      by_cases here : c = separator
      · rw [if_pos here, List.flatten_cons, List.nil_append, ih]
        simp [here]
      · rw [if_neg here, List.filter_cons_of_pos (by simpa using here), ← ih]
        cases split separator rest with
        | nil => rfl
        | cons part parts => rfl

omit [DecidableEq α] in
theorem mem_join {c : α} {part : List α} (mem : c ∈ part) {parts : List (List α)} :
    c ∈ join separator (part :: parts) := by
  cases parts with
  | nil => exact mem
  | cons next parts => exact List.mem_append_left _ mem

theorem cut_append (absent : separator ∉ front) (back : List α) :
    cut separator (front ++ separator :: back) = some (front, back) := by
  induction front with
  | nil => simp [cut]
  | cons c front ih =>
      have other : c ≠ separator := (List.ne_of_not_mem_cons absent).symm
      rw [List.cons_append, cut, if_neg other, ih (List.not_mem_of_not_mem_cons absent),
        Option.map_some]

theorem cut_eq_none {text : List α} (absent : separator ∉ text) : cut separator text = none := by
  induction text with
  | nil => rfl
  | cons c text ih =>
      have other : c ≠ separator := (List.ne_of_not_mem_cons absent).symm
      rw [cut, if_neg other, ih (List.not_mem_of_not_mem_cons absent), Option.map_none]

/-! ## Before the first separator and behind the last -/

theorem before_eq_self_iff {text : List α} : before separator text = text ↔ separator ∉ text := by
  rw [before, List.takeWhile_eq_self_iff]
  constructor
  · intro others mem
    simpa using others separator mem
  · intro absent c mem
    have other : c ≠ separator := by
      rintro rfl
      exact absent mem
    simp [other]

omit [DecidableEq α] in
/-- What follows a character that is not of a class does not change the front of that class. -/
theorem takeWhile_append_cons {p : α → Bool} {c : α} (other : p c = false) (front back : List α) :
    (front ++ c :: back).takeWhile p = front.takeWhile p := by
  induction front with
  | nil => simp [other]
  | cons first front ih => rw [List.cons_append, List.takeWhile_cons, List.takeWhile_cons, ih]

/-- What follows a separator does not change the text before the first one. -/
theorem before_append (text rest : List α) :
    before separator (text ++ separator :: rest) = before separator text :=
  takeWhile_append_cons (by simp) text rest

theorem afterLast_append (text : List α) {rest : List α} (absent : separator ∉ rest) :
    afterLast separator (text ++ separator :: rest) = rest := by
  have reversed : (text ++ separator :: rest).reverse =
      rest.reverse ++ separator :: text.reverse := by simp
  have absent_reversed : separator ∉ rest.reverse := by simpa using absent
  rw [afterLast, reversed, before_append, before_eq_self_iff.mpr absent_reversed,
    List.reverse_reverse]

theorem afterLast_eq_self {text : List α} (absent : separator ∉ text) :
    afterLast separator text = text := by
  have absent_reversed : separator ∉ text.reverse := by simpa using absent
  rw [afterLast, before_eq_self_iff.mpr absent_reversed, List.reverse_reverse]

omit [DecidableEq α] in
theorem exists_last {text : List α} (mem : separator ∈ text) :
    ∃ front back, text = front ++ separator :: back ∧ separator ∉ back := by
  obtain ⟨back, front, reversed, absent⟩ :=
    List.eq_append_cons_of_mem (List.mem_reverse.mpr mem)
  refine ⟨front.reverse, back.reverse, ?_, by simpa using absent⟩
  rw [← List.reverse_reverse text, reversed]
  simp

end Tollgate.Text
