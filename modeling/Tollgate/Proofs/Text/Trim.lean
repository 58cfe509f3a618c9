import Tollgate.Text.Blank
import Mathlib.Data.List.DropRight

/-!
# What trimming leaves

Trimming stops at the first character from either end that is not of the class. So a character that
is not blank keeps all that stands between it and the other ones that are not.
-/

namespace Tollgate.Text

variable {α : Type} {p : α → Bool}

theorem all_or_exists_first (p : α → Bool) (text : List α) :
    (∀ c ∈ text, p c = true) ∨
      ∃ front c back, text = front ++ c :: back ∧ (∀ c ∈ front, p c = true) ∧ p c = false := by
  cases rest : text.dropWhile p with
  | nil => exact Or.inl (List.dropWhile_eq_nil_iff.mp rest)
  | cons c back =>
      refine Or.inr ⟨text.takeWhile p, c, back, ?_, fun _ => List.mem_takeWhile_imp, ?_⟩
      · rw [← rest, List.takeWhile_append_dropWhile]
      · have stops := List.head?_dropWhile_not p text
        rwa [rest] at stops

/-! ## One end -/

theorem dropWhile_append_cons {c : α} (other : p c = false) (front back : List α) :
    (front ++ c :: back).dropWhile p = front.dropWhile p ++ c :: back := by
  have stops : (c :: back).dropWhile p = c :: back :=
    List.dropWhile_cons_of_neg (by rw [other]; exact Bool.false_ne_true)
  rw [List.dropWhile_append, stops]
  split
  next none_left => rw [List.isEmpty_iff.mp none_left, List.nil_append]
  next => rfl

theorem dropEndWhile_append_cons {c : α} (other : p c = false) (front back : List α) :
    dropEndWhile p (front ++ c :: back) = front ++ c :: dropEndWhile p back := by
  have reversed : (front ++ c :: back).reverse = back.reverse ++ c :: front.reverse := by simp
  rw [dropEndWhile, reversed, dropWhile_append_cons other, dropEndWhile]
  simp

theorem dropEndWhile_eq_nil_iff {text : List α} :
    dropEndWhile p text = [] ↔ ∀ c ∈ text, p c = true :=
  List.rdropWhile_eq_nil_iff

theorem dropEndWhile_of_getLast? {text : List α} (last : ∀ c ∈ text.getLast?, p c = false) :
    dropEndWhile p text = text := by
  apply List.rdropWhile_eq_self_iff.mpr
  intro nonempty
  simp [last _ (List.getLast_mem_getLast? nonempty)]

theorem dropEndWhile_append_of_all {behind : List α} (all : ∀ c ∈ behind, p c = true)
    (text : List α) : dropEndWhile p (text ++ behind) = dropEndWhile p text := by
  rw [dropEndWhile, List.reverse_append, List.dropWhile_append_of_pos, dropEndWhile]
  intro c mem
  exact all c (List.mem_reverse.mp mem)

theorem getLast?_dropEndWhile (p : α → Bool) (text : List α) :
    ∀ c ∈ (dropEndWhile p text).getLast?, p c = false := by
  intro c last
  have nonempty : List.rdropWhile p text ≠ [] := by
    intro none_left
    rw [dropEndWhile, ← List.rdropWhile, none_left] at last
    cases last
  have isLast : (List.rdropWhile p text).getLast nonempty = c :=
    Option.some.inj ((List.getLast?_eq_some_getLast nonempty).symm.trans last)
  rw [← isLast]
  exact Bool.eq_false_iff.mpr (List.rdropWhile_last_not p text nonempty)

theorem exists_dropEndWhile_append (p : α → Bool) (text : List α) :
    ∃ behind, dropEndWhile p text ++ behind = text ∧ ∀ c ∈ behind, p c = true :=
  ⟨List.rtakeWhile p text, List.rdropWhile_append_rtakeWhile, fun _ => List.mem_rtakeWhile_imp⟩

section Separator

variable [DecidableEq α] {separator : α} {text : List α}

theorem dropEndWhile_concat (text : List α) :
    dropEndWhile (· = separator) (text ++ [separator]) = dropEndWhile (· = separator) text :=
  List.rdropWhile_concat_pos _ _ _ (by simp)

theorem dropEndWhile_eq_self (absent : separator ∉ text) :
    dropEndWhile (· = separator) text = text := by
  apply List.rdropWhile_eq_self_iff.mpr
  intro nonempty
  have mem := List.getLast_mem nonempty
  intro last
  exact absent (of_decide_eq_true last ▸ mem)

theorem dropEndWhile_append_replicate (separator : α) (text : List α) (count : Nat) :
    dropEndWhile (· = separator) (text ++ List.replicate count separator) =
      dropEndWhile (· = separator) text := by
  induction count with
  | zero => rw [List.replicate_zero, List.append_nil]
  | succ count ih =>
      rw [List.replicate_succ', ← List.append_assoc, dropEndWhile_concat, ih]

end Separator

/-! ## Both ends -/

/-- There is nothing to trim where both ends are not blank. -/
theorem trim_eq_self {text : List Char} (first : ∀ c ∈ text.head?, isBlank c = false)
    (last : ∀ c ∈ text.getLast?, isBlank c = false) : trim text = text := by
  have front : text.dropWhile isBlank = text := by
    cases text with
    | nil => rfl
    | cons c rest => exact List.dropWhile_cons_of_neg (by simp [first c rfl])
  rw [trim, front, dropEndWhile_of_getLast? last]

theorem trim_append_cons {c : Char} (other : isBlank c = false) (front back : List Char) :
    trim (front ++ c :: back) = front.dropWhile isBlank ++ c :: dropEndWhile isBlank back := by
  rw [trim, dropWhile_append_cons other, dropEndWhile_append_cons other]

theorem trim_eq_nil {text : List Char} (blank : ∀ c ∈ text, isBlank c = true) : trim text = [] := by
  rw [trim, List.dropWhile_eq_nil_iff.mpr blank]
  rfl

/-- A text and what is between the blanks at both of its ends. -/
structure Trimmed (text core : List Char) : Prop where
  surrounded : ∃ front behind, text = front ++ core ++ behind ∧
    (∀ c ∈ front, isBlank c = true) ∧ ∀ c ∈ behind, isBlank c = true
  starts : ∀ c ∈ core.head?, isBlank c = false
  ends : ∀ c ∈ core.getLast?, isBlank c = false

theorem Trimmed.trim_eq {text core : List Char} (trimmed : Trimmed text core) :
    trim text = core := by
  obtain ⟨front, behind, rfl, front_blank, behind_blank⟩ := trimmed.surrounded
  cases core with
  | nil =>
      apply trim_eq_nil
      intro c mem
      rw [List.append_nil] at mem
      exact (List.mem_append.mp mem).elim (front_blank c) (behind_blank c)
  | cons c core =>
      have other : isBlank c = false := trimmed.starts c rfl
      rw [List.append_assoc, List.cons_append, trim_append_cons other,
        List.dropWhile_eq_nil_iff.mpr front_blank, List.nil_append,
        dropEndWhile_append_of_all behind_blank]
      have whole := dropEndWhile_of_getLast? trimmed.ends
      rwa [← List.nil_append (c :: core), dropEndWhile_append_cons other, List.nil_append] at whole

theorem trimmed_trim (text : List Char) : Trimmed text (trim text) := by
  rcases all_or_exists_first isBlank text with blank | ⟨front, c, back, rfl, front_blank, other⟩
  · rw [trim_eq_nil blank]
    exact ⟨⟨text, [], by simp, blank, List.forall_mem_nil _⟩, nofun, nofun⟩
  · obtain ⟨behind, parts, behind_blank⟩ := exists_dropEndWhile_append isBlank back
    rw [trim_append_cons other, List.dropWhile_eq_nil_iff.mpr front_blank, List.nil_append]
    constructor
    case surrounded =>
      refine ⟨front, behind, ?_, front_blank, behind_blank⟩
      rw [List.append_assoc, List.cons_append, parts]
    case starts =>
      rintro first ⟨⟩
      exact other
    case ends =>
      rw [← List.nil_append (c :: dropEndWhile isBlank back), ← dropEndWhile_append_cons other]
      exact getLast?_dropEndWhile isBlank (c :: back)

theorem trimmed_iff {text core : List Char} : Trimmed text core ↔ trim text = core :=
  ⟨Trimmed.trim_eq, fun h => h ▸ trimmed_trim text⟩

end Tollgate.Text
