import Tollgate.Text.Decimal
import Mathlib.Data.Nat.Digits.Lemmas

/-!
# Reading padded numbers back

Zeros in front do not change a number, so a padded text tells its number whatever the width. Where
the width holds the number the text has exactly that width, and a text that ends in such a part can
be taken apart there.

The digits of a number in any base up to sixteen are read back as well. Only zero begins with a
zero.

What is read as a decimal number is told without the reader: digits and nothing else, and for a
64-bit number at most one sign in front of them.
-/

namespace Tollgate.Text

theorem toList_padded (width n : Nat) :
    (padded width n).toList =
      List.replicate (width - (Nat.toDigits 10 n).length) '0' ++ Nat.toDigits 10 n := by
  simp only [padded, String.toList_append, String.toList_ofList, Nat.toString_eq_repr,
    Nat.toList_repr, ← String.length_toList]

/-- Reading a padded number gives the number. -/
theorem ofDigitChars_padded (width n : Nat) :
    Nat.ofDigitChars 10 (padded width n).toList 0 = n := by
  rw [toList_padded, Nat.ofDigitChars_append, Nat.ofDigitChars_replicate_zero]
  exact Nat.ofDigitChars_ten_toDigits

theorem padded_injective (width : Nat) : Function.Injective (padded width) := by
  intro m n same
  rw [← ofDigitChars_padded width m, same, ofDigitChars_padded]

theorem isDigit_of_mem_padded {width n : Nat} {c : Char} (mem : c ∈ (padded width n).toList) :
    c.isDigit = true := by
  rw [toList_padded] at mem
  rcases List.mem_append.mp mem with zero | digit
  · rw [List.eq_of_mem_replicate zero]
    rfl
  · exact Nat.isDigit_of_mem_toDigits (b := 10) (by decide) (by decide) digit

theorem length_padded {width n : Nat} (width_pos : 0 < width) (fits : n < 10 ^ width) :
    (padded width n).toList.length = width := by
  have short : (Nat.toDigits 10 n).length ≤ width :=
    (Nat.length_toDigits_le_iff (b := 10) (by decide) width_pos).mpr fits
  rw [toList_padded, List.length_append, List.length_replicate]
  omega

/-- A padded number at the end of a text can be taken off. -/
theorem append_padded_inj {width m n : Nat} {s t : String} (width_pos : 0 < width)
    (m_fits : m < 10 ^ width) (n_fits : n < 10 ^ width) :
    s ++ padded width m = t ++ padded width n ↔ s = t ∧ m = n := by
  constructor
  · intro same
    have chars := congrArg String.toList same
    rw [String.toList_append, String.toList_append] at chars
    have widths : (padded width m).toList.length = (padded width n).toList.length := by
      rw [length_padded width_pos m_fits, length_padded width_pos n_fits]
    obtain ⟨fronts, ends⟩ := List.append_inj' chars widths
    exact ⟨String.toList_inj.mp fronts, padded_injective width (String.toList_inj.mp ends)⟩
  · rintro ⟨rfl, rfl⟩
    rfl

/-! ## Digits of a base -/

theorem digitOf?_digitChar : ∀ base ≤ 16, ∀ digit < base,
    digitOf? base (Nat.digitChar digit) = some digit := by
  decide

theorem natural?_append_singleton {base n digit : Nat} {digits : List Char} {c : Char}
    (read : natural? base digits = some n) (last : digitOf? base c = some digit) :
    natural? base (digits ++ [c]) = some (n * base + digit) := by
  cases digits with
  | nil => cases read
  | cons first digits =>
      simp only [natural?] at read
      simp only [List.cons_append, natural?]
      rw [← List.cons_append, List.foldlM_append, read]
      simp [last]

section

variable {base : Nat}

theorem natural?_toDigits (two_le : 1 < base) (le_sixteen : base ≤ 16) (n : Nat) :
    natural? base (Nat.toDigits base n) = some n := by
  induction n using Nat.strongRecOn with
  | ind n ih =>
      rw [Nat.toDigits_eq_if two_le]
      split
      next small => simp [natural?, digitOf?_digitChar base le_sixteen n small]
      next large =>
          have smaller : n / base < n := Nat.div_lt_self (by omega) two_le
          have last := digitOf?_digitChar base le_sixteen (n % base) (Nat.mod_lt n (by omega))
          rw [natural?_append_singleton (ih _ smaller) last, Nat.div_add_mod']

theorem isSome_digitOf?_of_mem_toDigits (two_le : 1 < base) (le_sixteen : base ≤ 16) {n : Nat}
    {c : Char} (mem : c ∈ Nat.toDigits base n) : (digitOf? base c).isSome = true := by
  induction n using Nat.strongRecOn with
  | ind n ih =>
      rw [Nat.toDigits_eq_if two_le] at mem
      split at mem
      next small =>
          rw [List.mem_singleton.mp mem, digitOf?_digitChar base le_sixteen n small]
          rfl
      next large =>
          rcases List.mem_append.mp mem with front | last
          · exact ih _ (Nat.div_lt_self (by omega) two_le) front
          · rw [List.mem_singleton.mp last,
              digitOf?_digitChar base le_sixteen _ (Nat.mod_lt n (by omega))]
            rfl

theorem head?_toDigits_ne_zero (two_le : 1 < base) (le_sixteen : base ≤ 16) {n : Nat}
    (pos : 0 < n) : (Nat.toDigits base n).head? ≠ some '0' := by
  induction n using Nat.strongRecOn with
  | ind n ih =>
      rw [Nat.toDigits_eq_if two_le]
      split
      next small =>
          intro zero
          have read := digitOf?_digitChar base le_sixteen n small
          have nothing := digitOf?_digitChar base le_sixteen 0 (by omega)
          rw [Option.some.inj zero] at read
          rw [show Nat.digitChar 0 = '0' from rfl, read] at nothing
          exact Nat.ne_of_gt pos (Option.some.inj nothing)
      next large =>
          have quotient_pos : 0 < n / base := Nat.div_pos (Nat.not_lt.mp large) (by omega)
          have front := ih _ (Nat.div_lt_self pos two_le) quotient_pos
          rwa [List.head?_append_of_ne_nil _ Nat.toDigits_ne_nil]

end

/-! ## Decimal digits and signs -/

variable {digits text : List Char} {n : Nat} {number : Int}

/-- Decimal digits, of which there is at least one, and the number that they spell. -/
structure Spells (digits : List Char) (n : Nat) : Prop where
  nonempty : digits ≠ []
  isDigit : ∀ c ∈ digits, c.isDigit = true
  value : Nat.ofDigitChars 10 digits 0 = n

/-- Decimal digits with at most one sign in front, and the number that they spell. -/
inductive SpellsSigned : (text : List Char) → (number : Int) → Prop where
  | bare {digits : List Char} {n : Nat} (spells : Spells digits n) : SpellsSigned digits n
  | plus {digits : List Char} {n : Nat} (spells : Spells digits n) : SpellsSigned ('+' :: digits) n
  | minus {digits : List Char} {n : Nat} (spells : Spells digits n) :
      SpellsSigned ('-' :: digits) (-n)

theorem toNat_le_of_isDigit {c : Char} (digit : c.isDigit = true) : c.toNat ≤ 57 := by
  simp only [Char.isDigit, Bool.and_eq_true, decide_eq_true_eq, UInt32.le_iff_toNat_le] at digit
  exact digit.2

theorem digitOf?_ten (c : Char) :
    digitOf? 10 c = if c.isDigit then some (c.toNat - '0'.toNat) else none := by
  unfold digitOf? hexDigit?
  by_cases digit : c.isDigit = true
  · have below : c.toNat - '0'.toNat < 10 := by
      have nine := toNat_le_of_isDigit digit
      have zero : '0'.toNat = 48 := rfl
      omega
    rw [if_pos digit, if_pos digit, Option.filter_some, if_pos (decide_eq_true below)]
  · rw [if_neg digit, if_neg digit]
    split
    · rw [Option.filter_some, if_neg]
      simp
    · split
      · rw [Option.filter_some, if_neg]
        simp
      · rfl

theorem foldlM_digitOf? (digits : List Char) (start : Nat) :
    digits.foldlM (fun value c => (digitOf? 10 c).map (value * 10 + ·)) start = some n ↔
      (∀ c ∈ digits, c.isDigit = true) ∧ Nat.ofDigitChars 10 digits start = n := by
  induction digits generalizing start with
  | nil => simp [Nat.ofDigitChars]
  | cons c digits ih =>
      rw [List.foldlM_cons, digitOf?_ten, List.forall_mem_cons, Nat.ofDigitChars_cons]
      by_cases digit : c.isDigit = true
      · rw [if_pos digit]
        simp [ih, digit, Nat.mul_comm]
      · rw [if_neg digit]
        simp [digit]

theorem natural?_ten_eq_some_iff : natural? 10 digits = some n ↔ Spells digits n := by
  cases digits with
  | nil =>
      constructor
      · exact nofun
      · exact fun spells => absurd rfl spells.nonempty
  | cons c digits =>
      rw [natural?, foldlM_digitOf?]
      · constructor
        · rintro ⟨isDigit, value⟩
          exact ⟨List.cons_ne_nil c digits, isDigit, value⟩
        · exact fun spells => ⟨spells.isDigit, spells.value⟩
      · exact List.cons_ne_nil c digits

/-- A sign is no digit. -/
theorem ne_sign_of_isDigit {c : Char} (digit : c.isDigit = true) : c ≠ '+' ∧ c ≠ '-' := by
  constructor
  · rintro rfl
    exact absurd digit (by decide)
  · rintro rfl
    exact absurd digit (by decide)

theorem SpellsSigned.toNat_le (spells : SpellsSigned text number) : ∀ c ∈ text, c.toNat ≤ 57 := by
  cases spells with
  | bare spells => exact fun c mem => toNat_le_of_isDigit (spells.isDigit c mem)
  | plus spells | minus spells =>
      rw [List.forall_mem_cons]
      exact ⟨by decide, fun c mem => toNat_le_of_isDigit (spells.isDigit c mem)⟩

private theorem sized_eq_some_iff {sign : Int → Int} :
    (((natural? 10 digits).bind fun n => some (n : Int)).map sign).filter fitsInt64 = some number ↔
      ∃ n, Spells digits n ∧ sign n = number ∧ fitsInt64 number = true := by
  simp only [Option.filter_eq_some_iff, Option.map_eq_some_iff, Option.bind_eq_some_iff,
    Option.some.injEq, natural?_ten_eq_some_iff]
  constructor
  · rintro ⟨⟨_, ⟨n, spells, rfl⟩, signed⟩, fits⟩
    exact ⟨n, spells, signed, fits⟩
  · rintro ⟨n, spells, signed, fits⟩
    exact ⟨⟨_, ⟨n, spells, rfl⟩, signed⟩, fits⟩

/-- A 64-bit number is read from digits with at most one sign in front. -/
theorem int64?_ten_eq_some_iff :
    int64? 10 text = some number ↔ SpellsSigned text number ∧ fitsInt64 number = true := by
  constructor
  · intro read
    unfold int64? at read
    split at read
    next =>
      obtain ⟨n, spells, rfl, fits⟩ := sized_eq_some_iff.mp read
      exact ⟨.minus spells, fits⟩
    next =>
      obtain ⟨n, spells, rfl, fits⟩ := sized_eq_some_iff.mp read
      exact ⟨.plus spells, fits⟩
    next =>
      obtain ⟨n, spells, rfl, fits⟩ := sized_eq_some_iff.mp read
      exact ⟨.bare spells, fits⟩
  · rintro ⟨spells, fits⟩
    cases spells with
    | plus spells => exact sized_eq_some_iff.mpr ⟨_, spells, rfl, fits⟩
    | minus spells => exact sized_eq_some_iff.mpr ⟨_, spells, rfl, fits⟩
    | bare spells =>
        unfold int64?
        split
        next => exact absurd rfl (ne_sign_of_isDigit (spells.isDigit _ List.mem_cons_self)).2
        next => exact absurd rfl (ne_sign_of_isDigit (spells.isDigit _ List.mem_cons_self)).1
        next => exact sized_eq_some_iff.mpr ⟨_, spells, rfl, fits⟩

end Tollgate.Text
