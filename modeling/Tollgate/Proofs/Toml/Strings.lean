import Tollgate.Proofs.Text.Reader
import Tollgate.Toml.Quoted
import Tollgate.Toml.Reader

/-!
# Strings are read back

A string has six written forms, and they come down to four ways to read its characters: in single or
double quotes, and on one line or several. Each way is followed character by character. On several
lines up to two quotes may stand in a row, and the reader takes such a row at once, so the induction
carries the quotes that have been written since the last other character.
-/

namespace Tollgate.Toml

open Text.Reader

variable {c quote : Char} {text rest left : List Char}

/-! ## Characters -/

theorem isCommentChar_of_not_isHidden (shown : Quoted.isHidden c = false) (sameLine : c ≠ '\n') :
    isCommentChar c = true := by
  simp only [Quoted.isHidden, Bool.or_eq_false_iff, Bool.and_eq_false_iff, decide_eq_false_iff_not,
    ne_eq, Decidable.not_not] at shown
  simp only [isCommentChar, Bool.or_eq_true, Bool.and_eq_true, decide_eq_true_eq, ne_eq]
  obtain ⟨(printed | rfl) | rfl, other⟩ := shown
  · exact .inr ⟨Char.not_lt.mp printed, other⟩
  · exact .inl rfl
  · exact absurd rfl sameLine

theorem toNat_lt_of_isHidden (hidden : Quoted.isHidden c = true) : c.toNat < 128 := by
  simp only [Quoted.isHidden, Bool.or_eq_true, Bool.and_eq_true, decide_eq_true_eq] at hidden
  rcases hidden with ⟨⟨control, -⟩, -⟩ | rfl
  · exact Nat.lt_trans (Nat.lt_of_succ_le control) (by decide)
  · decide

theorem natural?_hexDigits : ∀ n < 128, Quoted.isHidden (Char.ofNat n) = true →
    Text.natural? 16 ['0', '0', Quoted.hexDigit (n / 16), Quoted.hexDigit (n % 16)] = some n := by
  decide

theorem run_escaped_of_isHidden (hidden : Quoted.isHidden c = true) (rest : List Char) :
    StateT.run escaped ('u' :: '0' :: '0' :: Quoted.hexDigit (c.toNat / 16) ::
      Quoted.hexDigit (c.toNat % 16) :: rest) = some (c, rest) := by
  have number := natural?_hexDigits c.toNat (toNat_lt_of_isHidden hidden)
    (by rwa [Char.ofNat_toNat])
  have valid : c.toNat.isValidChar := c.valid
  simp [escaped, codePoint, number, valid]

theorem run_escaped_quote (rest : List Char) :
    StateT.run escaped ('"' :: ([] ++ rest)) = some ('"', rest) := rfl

/-- How a character is written where there are escapes: as something behind a backslash, from which
it is read, or as it is. -/
inductive WrittenAs (long : Bool) (c : Char) : List Char → Prop where
  | escape {mark : Char} {tail : List Char} (solid : mark ∉ [' ', '\t', '\n', '\r'])
      (read : ∀ rest, StateT.run escaped (mark :: (tail ++ rest)) = some (c, rest)) :
      WrittenAs long c ('\\' :: mark :: tail)
  | plain (noEscape : c ≠ '\\') (noReturn : c ≠ '\r')
      (allowed : long = true ∧ c = '\n' ∨ isCommentChar c = true) : WrittenAs long c [c]

theorem writtenAs_escape (long : Bool) (c : Char) : WrittenAs long c (Quoted.escape long c) := by
  unfold Quoted.escape
  split
  next => exact .escape (by decide) fun _ => rfl
  next => exact .escape (by decide) fun _ => rfl
  next =>
      cases long with
      | true => exact .plain (by decide) (by decide) (.inl ⟨rfl, rfl⟩)
      | false => exact .escape (by decide) fun _ => rfl
  next => exact .escape (by decide) fun _ => rfl
  next => exact .escape (by decide) fun _ => rfl
  next => exact .escape (by decide) fun _ => rfl
  next sameLine _ noReturn noEscape =>
      split
      next hidden => exact .escape (by decide) (run_escaped_of_isHidden hidden)
      next shown =>
          have allowed := isCommentChar_of_not_isHidden (Bool.not_eq_true _ ▸ shown) sameLine
          exact .plain noEscape noReturn (.inr allowed)

/-! ## Strings on one line -/

theorem reads_line_end (quote : Char) (rest : List Char) :
    Reads (line quote) (quote :: rest) [] rest := by
  rintro (_ | steps) enough
  · cases enough
  · simp [line]

theorem reads_line_plain (other : c ≠ quote) (noEscape : c = '\\' → quote ≠ '"')
    (allowed : isCommentChar c = true) (after : Reads (line quote) rest text left) :
    Reads (line quote) (c :: rest) (c :: text) left := by
  rintro (_ | steps) enough
  · cases enough
  · have next := after steps (Nat.lt_of_succ_lt_succ enough)
    have plain : ¬ (c = '\\' ∧ quote = '"') := fun ⟨isEscape, double⟩ => noEscape isEscape double
    simp [line, other, plain, allowed, next]

theorem reads_line_escape {mark : Char} {tail : List Char}
    (read : StateT.run escaped (mark :: (tail ++ rest)) = some (c, rest))
    (after : Reads (line '"') rest text left) :
    Reads (line '"') ('\\' :: mark :: tail ++ rest) (c :: text) left := by
  rintro (_ | steps) enough
  · cases enough
  · have next : StateT.run (line '"' steps) rest = some (text, left) := by
      apply after
      simp only [List.cons_append, List.length_cons, List.length_append] at enough
      omega
    simp [line, read, next]

theorem reads_line_escaped (text rest : List Char) (quotes : Nat) :
    Reads (line '"') (Quoted.escaped false quotes text ++ '"' :: rest) text rest := by
  induction text generalizing quotes with
  | nil => exact reads_line_end '"' rest
  | cons c text ih =>
      by_cases double : c = '"'
      · subst double
        have quoted := reads_line_escape (run_escaped_quote _) (ih 0)
        exact quoted
      · rw [Quoted.escaped, if_neg double, List.append_assoc]
        have written := writtenAs_escape false c
        generalize Quoted.escape false c = form at written ⊢
        cases written with
        | escape _ read => exact reads_line_escape (read _) (ih 0)
        | plain noEscape _ allowed =>
            rcases allowed with ⟨⟨⟩, -⟩ | allowed
            exact reads_line_plain double (fun isEscape => absurd isEscape noEscape) allowed (ih 0)

/-- Characters without escapes on one line are read back. -/
theorem reads_line_raw (text rest : List Char) (single : '\'' ∉ text)
    (allowed : ∀ c ∈ text, isCommentChar c = true) :
    Reads (line '\'') (text ++ '\'' :: rest) text rest := by
  induction text with
  | nil => exact reads_line_end '\'' rest
  | cons c text ih =>
      obtain ⟨other, others⟩ := not_or.mp (mt List.mem_cons.mpr single)
      obtain ⟨allowed_here, allowed_later⟩ := List.forall_mem_cons.mp allowed
      exact reads_line_plain (Ne.symm other) (fun _ => by decide) allowed_here
        (ih others allowed_later)

/-! ## Strings on several lines -/

theorem run_replicate (count : Nat) (stops : Stops (· = quote) rest) :
    StateT.run (run (· = quote)) (List.replicate count quote ++ rest) =
      some (List.replicate count quote, rest) := by
  apply run_run_append _ stops
  intro c mem
  exact decide_eq_true (List.eq_of_mem_replicate mem)

/-- A row of quotes is taken at once, and its length says what it means. -/
theorem run_lines_quotes (noReturn : quote ≠ '\r') (count steps : Nat)
    (stops : Stops (· = quote) rest) :
    StateT.run (lines quote (steps + 1)) (List.replicate (count + 1) quote ++ rest) =
      StateT.run (if count + 1 < 3 then
          return List.replicate (count + 1) quote ++ (← lines quote steps)
        else if count + 1 ≤ 5 then return (List.replicate (count + 1) quote).drop 3
        else failure) rest := by
  have quotes := run_replicate (count + 1) stops
  have length_eq : (quote :: List.replicate count quote).length = count + 1 := by simp
  rw [List.replicate_succ] at quotes ⊢
  rw [lines]
  simp only [StateT.run_bind, StateT.run_get, List.cons_append, Option.bind_eq_bind,
    Option.pure_def, Option.bind_some]
  split
  next begun => cases begun
  next begun => exact absurd (List.cons.inj begun).1 noReturn
  next begun =>
      obtain ⟨rfl, rfl⟩ := List.cons.inj begun
      rw [if_pos rfl, StateT.run_bind, ← List.cons_append, quotes, Option.bind_eq_bind,
        Option.bind_some, length_eq]
      rfl

theorem reads_lines_quotes {count : Nat} (noReturn : quote ≠ '\r') (few : count ≤ 2)
    (stops : Stops (· = quote) rest) (after : Reads (lines quote) rest text left) :
    Reads (lines quote) (List.replicate count quote ++ rest) (List.replicate count quote ++ text)
      left := by
  cases count with
  | zero => exact after
  | succ count =>
      rintro (_ | steps) enough
      · cases enough
      have next : StateT.run (lines quote steps) rest = some (text, left) := by
        apply after
        rw [List.length_append, List.length_replicate] at enough
        omega
      have short : count + 1 < 3 := Nat.lt_succ_of_le few
      rw [run_lines_quotes noReturn count steps stops, if_pos short]
      simp [next]

/-- Three quotes end the string. Up to two more in front of them are part of it. -/
theorem reads_lines_end {count : Nat} (noReturn : quote ≠ '\r') (few : count ≤ 2)
    (stops : Stops (· = quote) rest) :
    Reads (lines quote) (List.replicate count quote ++ (List.replicate 3 quote ++ rest))
      (List.replicate count quote) rest := by
  rintro (_ | steps) enough
  · cases enough
  have long : ¬ count + 3 < 3 := Nat.not_lt.mpr (Nat.le_add_left 3 count)
  have fewer : count + 3 ≤ 5 := Nat.add_le_add_right few 3
  rw [← List.append_assoc, List.replicate_append_replicate,
    run_lines_quotes noReturn (count + 2) steps stops, if_neg long, if_pos fewer]
  rfl

theorem reads_lines_plain (other : c ≠ quote) (noEscape : c = '\\' → quote ≠ '"')
    (noReturn : c ≠ '\r') (allowed : c = '\n' ∨ isCommentChar c = true)
    (after : Reads (lines quote) rest text left) :
    Reads (lines quote) (c :: rest) (c :: text) left := by
  rintro (_ | steps) enough
  · cases enough
  · have next := after steps (Nat.lt_of_succ_lt_succ enough)
    have plain : ¬ (c = '\\' ∧ quote = '"') := fun ⟨isEscape, double⟩ => noEscape isEscape double
    simp [lines, other, noReturn, plain, allowed, next]

theorem reads_lines_escape {mark : Char} {tail : List Char}
    (solid : mark ∉ [' ', '\t', '\n', '\r'])
    (read : StateT.run escaped (mark :: (tail ++ rest)) = some (c, rest))
    (after : Reads (lines '"') rest text left) :
    Reads (lines '"') ('\\' :: mark :: tail ++ rest) (c :: text) left := by
  rintro (_ | steps) enough
  · cases enough
  · have next : StateT.run (lines '"' steps) rest = some (text, left) := by
      apply after
      simp only [List.cons_append, List.length_cons, List.length_append] at enough
      omega
    have joins : joinsLines (mark :: (tail ++ rest)) = false := by
      simp only [List.mem_cons, List.not_mem_nil, or_false, not_or] at solid
      obtain ⟨noBlank, noTab, noFeed, noReturn⟩ := solid
      simp [joinsLines, isBlank, noBlank, noTab, noFeed, noReturn]
    simp [lines, joins, read, next]

/-- Characters with escapes on several lines are read back, with the quotes in front of them. -/
theorem reads_lines_escaped (text : List Char) {rest : List Char} {quotes : Nat} (few : quotes ≤ 2)
    (stops : Stops (· = '"') rest) :
    Reads (lines '"') (List.replicate quotes '"' ++
        (Quoted.escaped true quotes text ++ (List.replicate 3 '"' ++ rest)))
      (List.replicate quotes '"' ++ text) rest := by
  induction text generalizing quotes with
  | nil =>
      rw [List.append_nil]
      exact reads_lines_end (by decide) few stops
  | cons c text ih =>
      by_cases double : c = '"'
      · subst double
        rw [Quoted.escaped, if_pos rfl]
        by_cases more : quotes < 2
        · -- The quote joins the ones before it.
          have joined := ih (show quotes + 1 ≤ 2 from more)
          rw [List.replicate_succ'] at joined
          simpa [more] using joined
        · simp only [more, decide_false, Bool.and_false, Bool.false_eq_true, if_false]
          apply reads_lines_quotes (by decide) few (stops_cons (by decide) _)
          have quoted := reads_lines_escape (by decide) (run_escaped_quote _) (ih (Nat.zero_le 2))
          exact quoted
      · rw [Quoted.escaped, if_neg double, List.append_assoc]
        have written := writtenAs_escape true c
        generalize Quoted.escape true c = form at written ⊢
        cases written with
        | escape solid read =>
            apply reads_lines_quotes (by decide) few (stops_cons (by decide) _)
            exact reads_lines_escape solid (read _) (ih (Nat.zero_le 2))
        | plain noEscape noReturn allowed =>
            apply reads_lines_quotes (by decide) few (stops_cons (decide_eq_false double) _)
            refine reads_lines_plain double (fun isEscape => absurd isEscape noEscape) noReturn
              (allowed.imp_left (·.2)) (ih (Nat.zero_le 2))

/-! ### Runs of quotes -/

/-- One step along a text, with the longest run so far and the length of the current one. -/
def Quoted.runStep (c : Char) (runs : Nat × Nat) (next : Char) : Nat × Nat :=
  let current := if next = c then runs.2 + 1 else 0
  (max runs.1 current, current)

theorem Quoted.longestRun_eq (c : Char) (text : List Char) :
    longestRun c text = (text.foldl (runStep c) (0, 0)).1 := rfl

theorem Quoted.le_foldl_runStep (c : Char) (text : List Char) (runs : Nat × Nat) :
    runs.1 ≤ (text.foldl (runStep c) runs).1 := by
  induction text generalizing runs with
  | nil => exact Nat.le_refl _
  | cons next text ih => exact Nat.le_trans (Nat.le_max_left _ _) (ih (runStep c runs next))

theorem Quoted.run_le_foldl_runStep (c : Char) (text : List Char) (runs : Nat × Nat) :
    runs.2 + 1 ≤ ((c :: text).foldl (runStep c) runs).1 := by
  refine Nat.le_trans ?_ (le_foldl_runStep c text (runStep c runs c))
  rw [runStep, if_pos rfl]
  exact Nat.le_max_right _ _

theorem Quoted.not_mem_of_foldl_runStep_eq_zero {runs : Nat × Nat}
    (none : (text.foldl (runStep c) runs).1 = 0) : c ∉ text := by
  induction text generalizing runs with
  | nil => exact List.not_mem_nil
  | cons next text ih =>
      rw [List.mem_cons, not_or]
      refine ⟨?_, ih none⟩
      rintro rfl
      have one := run_le_foldl_runStep c text runs
      rw [none] at one
      cases one

/-- Characters without escapes on several lines are read back, with the quotes in front of them. -/
theorem reads_lines_raw (text : List Char) {rest : List Char} {longest quotes : Nat}
    (few : quotes ≤ 2) (runs : (text.foldl (Quoted.runStep '\'') (longest, quotes)).1 ≤ 2)
    (shown : ∀ c ∈ text, Quoted.isHidden c = false) (stops : Stops (· = '\'') rest) :
    Reads (lines '\'') (List.replicate quotes '\'' ++ (text ++ (List.replicate 3 '\'' ++ rest)))
      (List.replicate quotes '\'' ++ text) rest := by
  induction text generalizing longest quotes with
  | nil =>
      rw [List.append_nil]
      exact reads_lines_end (by decide) few stops
  | cons c text ih =>
      obtain ⟨shown_here, shown_later⟩ := List.forall_mem_cons.mp shown
      by_cases single : c = '\''
      · subst single
        have more : quotes + 1 ≤ 2 :=
          Nat.le_trans (Quoted.run_le_foldl_runStep '\'' text (longest, quotes)) runs
        rw [List.foldl_cons, Quoted.runStep, if_pos rfl] at runs
        have joined := ih more runs shown_later
        rw [List.replicate_succ'] at joined
        simpa using joined
      · rw [List.foldl_cons, Quoted.runStep, if_neg single] at runs
        have noReturn : c ≠ '\r' := by
          rintro rfl
          cases shown_here
        apply reads_lines_quotes (by decide) few (stops_cons (decide_eq_false single) _)
        apply reads_lines_plain single (fun _ => by decide) noReturn
        · by_cases feed : c = '\n'
          · exact .inl feed
          · exact .inr (isCommentChar_of_not_isHidden shown_here feed)
        · exact ih (Nat.zero_le 2) runs shown_later

/-! ## Written strings -/

/-- A string on one line is read if its quote is not the first of three. -/
theorem run_string_line (single : [quote, quote].isPrefixOf text = false)
    (read : Reads (line quote) text left rest) :
    StateT.run (string quote) (quote :: text) = some (String.ofList left, rest) := by
  have chars := read (text.length + 1) (Nat.lt_succ_self _)
  simp [string, lineString, single, chars]

/-- A string on several lines is read, without the line break that it begins with. -/
theorem run_string_lines {body : List Char} (lead : text = '\n' :: body ∨
      text = body ∧ Stops (fun c => c = '\n' || c = '\r') text)
    (read : Reads (lines quote) body left rest) :
    StateT.run (string quote) (List.replicate 3 quote ++ text) =
      some (String.ofList left, rest) := by
  have chars := read (body.length + 1) (Nat.lt_succ_self _)
  rcases lead with rfl | ⟨rfl, stops⟩
  · simp [string, chars]
  · cases text with
    | nil =>
        rw [List.length_nil] at chars
        simp [string, chars]
    | cons c text =>
        have other := stops c rfl
        simp only [Bool.or_eq_false_iff, decide_eq_false_iff_not] at other
        obtain ⟨noFeed, noReturn⟩ := other
        rw [List.length_cons] at chars
        simp [string, Ne.symm noFeed, Ne.symm noReturn, chars]

/-- What stands in threefold quotes is read, if it does not begin with a carriage return. -/
theorem run_string_enclose_lines {body : List Char} (ne_feed : quote ≠ '\n')
    (ne_return : quote ≠ '\r') (stops : Stops (· = '\r') body)
    (read : Reads (lines quote) (body ++ (List.replicate 3 quote ++ rest)) left rest) :
    StateT.run (string quote) (Quoted.enclose (List.replicate 3 quote) body ++ rest) =
      some (String.ofList left, rest) := by
  simp only [Quoted.enclose, List.append_assoc]
  apply run_string_lines _ read
  by_cases broken : '\n' ∈ body
  · left
    simp [broken]
  · right
    have unbroken : body.contains '\n' = false := by simpa using broken
    rw [unbroken, Bool.and_false, if_neg Bool.false_ne_true, List.nil_append]
    refine ⟨rfl, ?_⟩
    cases body with
    | nil => exact stops_cons (by simp [ne_feed, ne_return]) _
    | cons c body =>
        have noFeed : c ≠ '\n' := fun isFeed => broken (isFeed ▸ List.mem_cons_self)
        have noReturn : c ≠ '\r' := of_decide_eq_false (stops c rfl)
        rw [List.cons_append]
        exact stops_cons (by simp [noFeed, noReturn]) _

/-- With escapes no text begins with a carriage return, and on one line none with a quote. -/
theorem ne_of_mem_head?_escaped {long : Bool} {text : List Char} :
    ∀ first ∈ (Quoted.escaped long 0 text).head?,
      first ≠ '\r' ∧ (long = false → first ≠ '"') := by
  cases text with
  | nil => nofun
  | cons c text =>
      rw [Quoted.escaped]
      by_cases double : c = '"'
      · rw [if_pos double]
        cases long with
        | true =>
            rintro first ⟨⟩
            exact ⟨by decide, nofun⟩
        | false =>
            rintro first ⟨⟩
            exact ⟨by decide, fun _ => by decide⟩
      · rw [if_neg double]
        have written := writtenAs_escape long c
        generalize Quoted.escape long c = form at written ⊢
        cases written with
        | escape =>
            rintro first ⟨⟩
            exact ⟨by decide, fun _ => by decide⟩
        | plain _ noReturn =>
            rintro first ⟨⟩
            exact ⟨noReturn, fun _ => double⟩

/-- Whether a text does not go on with a quote of either kind. -/
abbrev NoQuote : List Char → Prop := Stops fun c => c = '"' || c = '\''

theorem NoQuote.stops_double (h : NoQuote rest) : Stops (· = '"') rest := by
  intro c head
  exact (Bool.or_eq_false_iff.mp (h c head)).1

theorem NoQuote.stops_single (h : NoQuote rest) : Stops (· = '\'') rest := by
  intro c head
  exact (Bool.or_eq_false_iff.mp (h c head)).2

/-- The second quote of an empty string, or the first character of another, is followed by no
quote. -/
theorem isPrefixOf_quotes_eq_false {body : List Char} (first : Stops (· = quote) body)
    (stops : Stops (· = quote) rest) :
    [quote, quote].isPrefixOf (body ++ quote :: rest) = false := by
  cases body with
  | nil =>
      cases rest with
      | nil => simp
      | cons c rest =>
          have other : c ≠ quote := of_decide_eq_false (stops c rfl)
          simp [List.isPrefixOf, Ne.symm other]
  | cons c body =>
      have other : c ≠ quote := of_decide_eq_false (first c rfl)
      simp [List.isPrefixOf, Ne.symm other]

/-- Double quotes around a text with escapes. -/
theorem run_string_escaped_line (text : List Char) (stops : NoQuote rest) :
    StateT.run (string '"') (Quoted.enclose ['"'] (Quoted.escaped false 0 text) ++ rest) =
      some (String.ofList text, rest) := by
  have first : Stops (· = '"') (Quoted.escaped false 0 text) :=
    fun c head => decide_eq_false ((ne_of_mem_head?_escaped c head).2 rfl)
  have body := run_string_line (isPrefixOf_quotes_eq_false first stops.stops_double)
    (reads_line_escaped text rest 0)
  simpa [Quoted.enclose] using body

/-- Single quotes around a text as it is. -/
theorem run_string_raw_line (stops : NoQuote rest) (single : '\'' ∉ text)
    (allowed : ∀ c ∈ text, isCommentChar c = true) :
    StateT.run (string '\'') (Quoted.enclose ['\''] text ++ rest) =
      some (String.ofList text, rest) := by
  have first : Stops (· = '\'') text := by
    intro c head
    exact decide_eq_false fun isQuote => single (isQuote ▸ List.mem_of_mem_head? head)
  have body := run_string_line (isPrefixOf_quotes_eq_false first stops.stops_single)
    (reads_line_raw text rest single allowed)
  simpa [Quoted.enclose] using body

/-- Threefold double quotes around a text with escapes. -/
theorem run_string_escaped_lines (text : List Char) (stops : NoQuote rest) :
    StateT.run (string '"')
        (Quoted.enclose (List.replicate 3 '"') (Quoted.escaped true 0 text) ++ rest) =
      some (String.ofList text, rest) := by
  apply run_string_enclose_lines (by decide) (by decide)
  · intro c head
    exact decide_eq_false (ne_of_mem_head?_escaped c head).1
  · exact reads_lines_escaped text (Nat.zero_le 2) stops.stops_double

/-- Threefold single quotes around a text as it is. -/
theorem run_string_raw_lines (stops : NoQuote rest) (runs : Quoted.longestRun '\'' text ≤ 2)
    (shown : ∀ c ∈ text, Quoted.isHidden c = false) :
    StateT.run (string '\'') (Quoted.enclose (List.replicate 3 '\'') text ++ rest) =
      some (String.ofList text, rest) := by
  apply run_string_enclose_lines (by decide) (by decide)
  · intro c head
    refine decide_eq_false ?_
    rintro rfl
    cases shown '\r' (List.mem_of_mem_head? head)
  · rw [Quoted.longestRun_eq] at runs
    exact reads_lines_raw text (Nat.zero_le 2) runs shown stops.stops_single

/-- Every text is read back from its written form, which begins with the kind of quote that the
reader has to be asked for. -/
theorem run_string_write (text : List Char) (stops : NoQuote rest) :
    ∃ quote, (quote = '"' ∨ quote = '\'') ∧ (Quoted.write text).head? = some quote ∧
      StateT.run (string quote) (Quoted.write text ++ rest) = some (String.ofList text, rest) := by
  unfold Quoted.write
  dsimp only
  split
  · exact ⟨'"', .inl rfl, rfl, run_string_escaped_line text stops⟩
  split
  next raw =>
      simp only [Bool.and_eq_true, Bool.not_eq_true', List.any_eq_false, decide_eq_true_eq,
        Bool.not_eq_true] at raw
      obtain ⟨⟨shown, single⟩, unbroken⟩ := raw
      refine ⟨'\'', .inr rfl, rfl, run_string_raw_line stops ?_ ?_⟩
      · rw [Quoted.longestRun_eq] at single
        exact Quoted.not_mem_of_foldl_runStep_eq_zero single
      · intro c mem
        refine isCommentChar_of_not_isHidden (shown c mem) ?_
        rintro rfl
        exact absurd mem (by simpa using unbroken)
  split
  · exact ⟨'"', .inl rfl, rfl, run_string_escaped_lines text stops⟩
  split
  next raw =>
      simp only [Bool.and_eq_true, Bool.not_eq_true', List.any_eq_false, decide_eq_true_eq,
        Bool.not_eq_true] at raw
      obtain ⟨shown, singles⟩ := raw
      exact ⟨'\'', .inr rfl, rfl, run_string_raw_lines stops singles shown⟩
  split
  · exact ⟨'"', .inl rfl, rfl, run_string_escaped_lines text stops⟩
  · exact ⟨'"', .inl rfl, rfl, run_string_escaped_line text stops⟩

end Tollgate.Toml
