/-!
# Splitting at separators

`split` gives every part between separators, empty ones included, so `join` undoes it. `cut` splits
at the first separator only.
-/

namespace Tollgate.Text

variable {α : Type} [DecidableEq α]

/-- The parts between the separators, always at least one. -/
def split (separator : α) : List α → List (List α)
  | [] => [[]]
  | c :: rest =>
    if c = separator then [] :: split separator rest
    else
      match split separator rest with
      | [] => [[c]]
      | part :: parts => (c :: part) :: parts

/-- The parts with a separator between each two. -/
def join (separator : α) : List (List α) → List α
  | [] => []
  | [part] => part
  | part :: parts => part ++ separator :: join separator parts

theorem split_ne_nil (separator : α) (text : List α) : split separator text ≠ [] := by
  cases text with
  | nil => simp [split]
  | cons c rest =>
    simp only [split]
    split
    · simp
    · split <;> simp

theorem join_split (separator : α) (text : List α) :
    join separator (split separator text) = text := by
  induction text with
  | nil => rfl
  | cons c rest ih =>
    simp only [split]
    split
    · rename_i h
      cases parts : split separator rest with
      | nil => exact absurd parts (split_ne_nil separator rest)
      | cons part more => rw [parts] at ih; simp [join, h, ih]
    · cases parts : split separator rest with
      | nil => exact absurd parts (split_ne_nil separator rest)
      | cons part more =>
        rw [parts] at ih
        cases more <;> simp_all [join]

/-- The parts have nothing that the text has not. -/
theorem mem_of_mem_split {separator c : α} {text part : List α}
    (isPart : part ∈ split separator text) (mem : c ∈ part) : c ∈ text := by
  induction text generalizing part with
  | nil => simp_all [split]
  | cons first rest ih =>
    simp only [split] at isPart
    split at isPart
    · rcases List.mem_cons.mp isPart with rfl | isPart
      · cases mem
      · exact List.mem_cons_of_mem first (ih isPart mem)
    · cases parts : split separator rest with
      | nil => exact absurd parts (split_ne_nil separator rest)
      | cons front more =>
        rw [parts] at isPart ih
        rcases List.mem_cons.mp isPart with rfl | isPart
        · rcases List.mem_cons.mp mem with rfl | mem
          · exact List.mem_cons_self
          · exact List.mem_cons_of_mem first (ih List.mem_cons_self mem)
        · exact List.mem_cons_of_mem first (ih (List.mem_cons_of_mem front isPart) mem)

/-- The text before and after the first separator, if there is one. -/
def cut (separator : α) : List α → Option (List α × List α)
  | [] => none
  | c :: rest =>
    if c = separator then some ([], rest)
    else (cut separator rest).map fun (front, back) => (c :: front, back)

/-- The text before the first separator, or all of it. -/
def before (separator : α) (text : List α) : List α := text.takeWhile (· ≠ separator)

/-- The text behind the last separator, or all of it. -/
def afterLast (separator : α) (text : List α) : List α :=
  (before separator text.reverse).reverse

/-- What is left of a text once a start it has is taken off. -/
def dropStart? : (start text : List α) → Option (List α)
  | [], text => some text
  | _, [] => none
  | s :: start, c :: text => if s = c then dropStart? start text else none

theorem eq_append_of_dropStart? {start text rest : List α}
    (taken : dropStart? start text = some rest) : text = start ++ rest := by
  fun_induction dropStart? start text with
  | case1 => exact Option.some.inj taken
  | case2 | case4 => cases taken
  | case3 s start text ih => rw [ih taken, List.cons_append]

theorem dropStart?_append (start text : List α) : dropStart? start (start ++ text) = some text := by
  induction start with
  | nil => cases text <;> rfl
  | cons s start ih => simp [dropStart?, ih]

end Tollgate.Text
