import Tollgate.Text.Reader

/-!
# What readers take

A reader is described by its run on a text of which it takes the front. Most readers go on as long
as the characters are of a class, so what follows must stop them. Readers that are given a number of
steps need no more of them than there are characters.
-/

namespace Tollgate.Text.Reader

variable {α : Type} {p : Char → Bool} {taken rest text : List Char}

/-- Whether a text does not go on with a character of a class. -/
def Stops (p : Char → Bool) (text : List Char) : Prop := ∀ c ∈ text.head?, p c = false

theorem stops_cons {c : Char} (other : p c = false) (rest : List Char) : Stops p (c :: rest) := by
  rintro first ⟨⟩
  exact other

theorem Stops.of_imp {q : Char → Bool} (stops : Stops p text)
    (imp : ∀ {c}, q c = true → p c = true) : Stops q text := by
  intro c head
  have other := stops c head
  refine Bool.eq_false_iff.mpr ?_
  intro also
  rw [imp also] at other
  cases other

theorem takeWhile_append_of_stops (all : ∀ c ∈ taken, p c = true) (stops : Stops p rest) :
    (taken ++ rest).takeWhile p = taken := by
  rw [List.takeWhile_append_of_pos all]
  cases rest with
  | nil => exact List.append_nil taken
  | cons c rest =>
      rw [List.takeWhile_cons_of_neg (by rw [stops c rfl]; exact Bool.false_ne_true),
        List.append_nil]

theorem dropWhile_append_of_stops (all : ∀ c ∈ taken, p c = true) (stops : Stops p rest) :
    (taken ++ rest).dropWhile p = rest := by
  rw [List.dropWhile_append_of_pos all]
  cases rest with
  | nil => rfl
  | cons c rest =>
      exact List.dropWhile_cons_of_neg (by rw [stops c rfl]; exact Bool.false_ne_true)

theorem takeWhile_of_stops (stops : Stops p text) : text.takeWhile p = [] := by
  rw [← List.nil_append text]
  exact takeWhile_append_of_stops (List.forall_mem_nil _) stops

theorem dropWhile_of_stops (stops : Stops p text) : text.dropWhile p = text := by
  rw [← List.nil_append text]
  exact dropWhile_append_of_stops (List.forall_mem_nil _) stops

@[simp]
theorem run_peek (text : List Char) : StateT.run peek text = some (text.head?, text) := rfl

@[simp]
theorem run_skip (count : Nat) (text : List Char) :
    StateT.run (skip count) text = some ((), text.drop count) := rfl

@[simp]
theorem run_ahead (start text : List Char) :
    StateT.run (ahead start) text = some (start.isPrefixOf text, text) := rfl

@[simp]
theorem run_expect (c : Char) (rest : List Char) :
    StateT.run (expect c) (c :: rest) = some ((), rest) := by
  simp [expect]

@[simp]
theorem run_run (p : Char → Bool) (text : List Char) :
    StateT.run (run p) text = some (text.takeWhile p, text.dropWhile p) := rfl

/-- A run goes as far as the characters are of the class. -/
theorem run_run_append (all : ∀ c ∈ taken, p c = true) (stops : Stops p rest) :
    StateT.run (run p) (taken ++ rest) = some (taken, rest) := by
  rw [run_run, takeWhile_append_of_stops all stops, dropWhile_append_of_stops all stops]

theorem run_run1_append (some_taken : taken ≠ []) (all : ∀ c ∈ taken, p c = true)
    (stops : Stops p rest) : StateT.run (run1 p) (taken ++ rest) = some (taken, rest) := by
  rw [run1, StateT.run_bind, run_run_append all stops]
  simp [some_taken]

/-- A reader that is given more steps than there are characters reads a value off a text, and this
is left. -/
def Reads (reader : Nat → Reader α) (text : List Char) (value : α) (rest : List Char) : Prop :=
  ∀ steps, text.length < steps → StateT.run (reader steps) text = some (value, rest)

end Tollgate.Text.Reader
