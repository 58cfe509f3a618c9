import Tollgate.Proofs.Text.Decimal
import Tollgate.Proofs.Text.Percent
import Tollgate.Proofs.Text.Split
import Tollgate.Proofs.Text.Trim
import Tollgate.Proofs.Tickets.Amount

/-!
# Which texts are amounts

An amount in yuan is spelled by digits, and perhaps a point with up to two digits behind it. The two
parts are read by a reader of signed numbers each, and only the number in front of the point is
looked at for its sign. So a text without signs is read exactly if it spells an amount. Of the
others, those are read that have a plus sign in front of either part, a minus sign in front of
zeros, or one in front of a single digit behind the point, which is then taken off. What is written
for a number of cents spells it.
-/

namespace Tollgate.Tickets

open Text (Spells SpellsSigned)

variable {text whole fraction : List Char} {amount : String} {yuan part cents : Int}

/-- A text in front of its first point and behind it. There need not be one. -/
inductive Parted : (text whole fraction : List Char) → Prop where
  | whole {text : List Char} (absent : '.' ∉ text) : Parted text text []
  | point {whole : List Char} (absent : '.' ∉ whole) (fraction : List Char) :
      Parted (whole ++ '.' :: fraction) whole fraction

/-- An amount in yuan, and how many cents it is: digits, and perhaps a point with up to two more
digits, which are read on with zeros for those that are missing. -/
inductive SpellsCents (text : List Char) : (cents : Int) → Prop where
  | intro {whole fraction : List Char} {yuan : Nat} (parted : Parted text whole fraction)
      (whole_spells : Spells whole yuan) (isDigit : ∀ c ∈ fraction, c.isDigit = true)
      (short : fraction.length ≤ 2) :
      SpellsCents text
        (Nat.ofDigitChars 10 (fraction ++ List.replicate (2 - fraction.length) '0') yuan : Nat)

/-- The cents that are read behind the point. Two characters are a number, perhaps with a sign. -/
inductive ReadBehind : (fraction : List Char) → (part : Int) → Prop where
  | nothing : ReadBehind [] 0
  | tenths {c : Char} {n : Nat} (spells : Spells [c] n) : ReadBehind [c] (n * 10)
  | hundredths {c d : Char} {part : Int} (spells : SpellsSigned [c, d] part) :
      ReadBehind [c, d] part

/-- A text that is read as an amount, and the cents that it is read as. -/
inductive ReadAs (text : List Char) : (cents : Int) → Prop where
  | intro {whole fraction : List Char} {yuan part : Int} (parted : Parted text whole fraction)
      (whole_spells : SpellsSigned whole yuan) (nonneg : 0 ≤ yuan)
      (behind : ReadBehind fraction part) : ReadAs text (yuan * 100 + part)

/-! ## Parts -/

theorem parted_iff :
    Parted text whole fraction ↔ (Text.cut '.' text).getD (text, []) = (whole, fraction) := by
  constructor
  · rintro (absent | ⟨absent, fraction⟩)
    · rw [Text.cut_eq_none absent, Option.getD_none]
    · rw [Text.cut_append absent, Option.getD_some]
  · intro parts
    by_cases mem : '.' ∈ text
    · obtain ⟨front, back, rfl, absent⟩ := List.eq_append_cons_of_mem mem
      rw [Text.cut_append absent, Option.getD_some] at parts
      obtain ⟨rfl, rfl⟩ := Prod.mk.inj parts
      exact .point absent _
    · rw [Text.cut_eq_none mem, Option.getD_none] at parts
      obtain ⟨rfl, rfl⟩ := Prod.mk.inj parts
      exact .whole mem

theorem exists_parted (text : List Char) : ∃ whole fraction, Parted text whole fraction :=
  ⟨_, _, parted_iff.mpr rfl⟩

/-! ## Sizes -/

theorem utf8ByteSize_of_spellsSigned (spells : SpellsSigned text part) :
    (String.ofList text).utf8ByteSize = text.length := by
  have ascii : ∀ c ∈ text, c.toNat < 128 := by
    intro c mem
    have := spells.toNat_le c mem
    omega
  rw [← Octets.length_ofText, Octets.ofText_of_ascii, List.length_map, String.toList_ofList]
  rwa [String.toList_ofList]

theorem ReadBehind.utf8ByteSize_eq (behind : ReadBehind fraction part) :
    (String.ofList fraction).utf8ByteSize = fraction.length := by
  cases behind with
  | nothing => rfl
  | tenths spells => exact utf8ByteSize_of_spellsSigned (.bare spells)
  | hundredths spells => exact utf8ByteSize_of_spellsSigned spells

theorem ReadBehind.length_le (behind : ReadBehind fraction part) : fraction.length ≤ 2 := by
  cases behind <;> simp

/-! ## Reading -/

theorem exists_spells_of_singleton {c : Char} (spells : SpellsSigned [c] part) :
    ∃ n : Nat, Spells [c] n ∧ part = n := by
  cases spells with
  | bare spells => exact ⟨_, spells, rfl⟩
  | plus spells | minus spells => exact absurd rfl spells.nonempty

theorem le_of_spells_one {c : Char} {n : Nat} (spells : Spells [c] n) : n ≤ 9 := by
  have c_le := Text.toNat_le_of_isDigit (spells.isDigit c List.mem_cons_self)
  have zero : '0'.toNat = 48 := rfl
  rw [← spells.value, Nat.ofDigitChars_cons, Nat.ofDigitChars_nil]
  omega

theorem le_of_spells_two {c d : Char} {n : Nat} (spells : Spells [c, d] n) : n ≤ 99 := by
  have c_le := Text.toNat_le_of_isDigit (spells.isDigit c (by simp))
  have d_le := Text.toNat_le_of_isDigit (spells.isDigit d (by simp))
  have zero : '0'.toNat = 48 := rfl
  rw [← spells.value, Nat.ofDigitChars_cons, Nat.ofDigitChars_cons, Nat.ofDigitChars_nil]
  omega

/-- At most one digit is taken off, and less than a yuan is added. -/
theorem ReadBehind.bounds (behind : ReadBehind fraction part) : -9 ≤ part ∧ part ≤ 99 := by
  cases behind with
  | nothing => decide
  | tenths spells =>
      have := le_of_spells_one spells
      omega
  | hundredths spells =>
      cases spells with
      | bare spells =>
          have := le_of_spells_two spells
          omega
      | plus spells | minus spells =>
          have := le_of_spells_one spells
          omega

theorem fitsInt64_of_bounds (bounds : -9 ≤ part ∧ part ≤ 99) : Text.fitsInt64 part = true := by
  rw [Text.fitsInt64_iff, Text.minInt64, Text.maxInt64]
  omega

theorem readBehind_iff_of_one (size : (String.ofList fraction).utf8ByteSize = 1) :
    (Text.int64? 10 fraction).map (· * 10) = some part ↔ ReadBehind fraction part := by
  constructor
  · intro read
    obtain ⟨tenths, digit, rfl⟩ := Option.map_eq_some_iff.mp read
    obtain ⟨spells, -⟩ := Text.int64?_ten_eq_some_iff.mp digit
    have length := (utf8ByteSize_of_spellsSigned spells).symm.trans size
    obtain ⟨c, rfl⟩ := List.length_eq_one_iff.mp length
    obtain ⟨n, one_digit, rfl⟩ := exists_spells_of_singleton spells
    exact .tenths one_digit
  · intro behind
    have length := behind.utf8ByteSize_eq
    rw [size] at length
    cases behind with
    | nothing | hundredths => cases length
    | tenths spells =>
        refine Option.map_eq_some_iff.mpr
          ⟨_, Text.int64?_ten_eq_some_iff.mpr ⟨.bare spells, fitsInt64_of_bounds ?_⟩, rfl⟩
        have := le_of_spells_one spells
        omega

theorem readBehind_iff_of_two (size : (String.ofList fraction).utf8ByteSize = 2) :
    Text.int64? 10 fraction = some part ↔ ReadBehind fraction part := by
  constructor
  · intro read
    obtain ⟨spells, -⟩ := Text.int64?_ten_eq_some_iff.mp read
    have length := (utf8ByteSize_of_spellsSigned spells).symm.trans size
    obtain ⟨c, d, rfl⟩ := List.length_eq_two.mp length
    exact .hundredths spells
  · intro behind
    have length := behind.utf8ByteSize_eq
    have bounds := behind.bounds
    rw [size] at length
    cases behind with
    | nothing | tenths => cases length
    | hundredths spells =>
        exact Text.int64?_ten_eq_some_iff.mpr ⟨spells, fitsInt64_of_bounds bounds⟩

theorem sum_eq_some_iff :
    (if yuan < 0 then none
      else (checked (yuan * 100)).bind fun hundreds => checked (hundreds + part)) = some cents ↔
      0 ≤ yuan ∧ Text.fitsInt64 (yuan * 100) = true ∧ yuan * 100 + part = cents ∧
        Text.fitsInt64 cents = true := by
  rw [Option.ite_none_left_eq_some, Int.not_lt]
  simp only [Option.bind_eq_some_iff, checked_eq_some_iff]
  constructor
  · rintro ⟨nonneg, _, ⟨hundreds_fit, rfl⟩, fits, rfl⟩
    exact ⟨nonneg, hundreds_fit, rfl, fits⟩
  · rintro ⟨nonneg, hundreds_fit, rfl, fits⟩
    exact ⟨nonneg, _, ⟨hundreds_fit, rfl⟩, fits, rfl⟩

/-- The two parts of an amount are read each by itself. -/
theorem parseCents_iff_of_parted (parted : Parted (Text.trim amount.toList) whole fraction) :
    parseCents amount = some cents ↔
      ∃ yuan, Text.int64? 10 whole = some yuan ∧ ∃ part, ReadBehind fraction part ∧
        0 ≤ yuan ∧ Text.fitsInt64 (yuan * 100) = true ∧ yuan * 100 + part = cents ∧
        Text.fitsInt64 cents = true := by
  unfold parseCents
  simp only [parted_iff.mp parted, Option.bind_eq_bind, Option.bind_none]
  split
  next refused =>
    simp only [Bool.or_eq_true, decide_eq_true_eq, List.isEmpty_iff] at refused
    constructor
    · exact nofun
    · rintro ⟨yuan, read, part, behind, -⟩
      rcases refused with rfl | long
      · cases read
      · have short := behind.length_le
        rw [← behind.utf8ByteSize_eq] at short
        exact absurd short (Nat.not_le.mpr long)
  next taken =>
    simp only [Bool.or_eq_true, decide_eq_true_eq, not_or, Nat.not_lt] at taken
    obtain ⟨-, short⟩ := taken
    cases Text.int64? 10 whole with
    | none => simp
    | some yuan =>
      simp only [Option.bind_some, Option.some.injEq, exists_eq_left', ← sum_eq_some_iff]
      split
      next size =>
        obtain rfl : fraction = [] := by
          simpa using String.utf8ByteSize_eq_zero_iff.mp size
        constructor
        · exact fun sum => ⟨0, .nothing, sum⟩
        · rintro ⟨_, ⟨⟩, sum⟩
          exact sum
      next size => simp only [Option.bind_eq_some_iff, readBehind_iff_of_one size]
      next not_none not_one =>
        have size : (String.ofList fraction).utf8ByteSize = 2 := by
          refine Nat.le_antisymm short ?_
          exact (Nat.two_le_iff _).mpr ⟨not_none, not_one⟩
        simp only [Option.bind_eq_some_iff, readBehind_iff_of_two size]

/-- A text is read as an amount if the cents have 64 bits. -/
theorem parseCents_eq_some_iff :
    parseCents amount = some cents ↔
      ReadAs (Text.trim amount.toList) cents ∧ Text.fitsInt64 cents = true := by
  constructor
  · intro read
    obtain ⟨whole, fraction, parted⟩ := exists_parted (Text.trim amount.toList)
    obtain ⟨yuan, yuan_read, part, behind, nonneg, -, rfl, fits⟩ :=
      (parseCents_iff_of_parted parted).mp read
    exact ⟨⟨parted, (Text.int64?_ten_eq_some_iff.mp yuan_read).1, nonneg, behind⟩, fits⟩
  · rintro ⟨@⟨whole, fraction, yuan, part, parted, spells, nonneg, behind⟩, fits⟩
    have bounds := behind.bounds
    have yuan_fits : Text.fitsInt64 yuan = true ∧ Text.fitsInt64 (yuan * 100) = true := by
      simp only [Text.fitsInt64_iff, Text.minInt64, Text.maxInt64] at fits ⊢
      omega
    exact (parseCents_iff_of_parted parted).mpr ⟨yuan,
      Text.int64?_ten_eq_some_iff.mpr ⟨spells, yuan_fits.1⟩, part, behind, nonneg, yuan_fits.2, rfl,
      fits⟩

/-! ## Signs -/

/-- No plus sign and no minus sign. -/
def Unsigned (text : List Char) : Prop := ∀ c ∈ text, c ≠ '+' ∧ c ≠ '-'

theorem Parted.unsigned_iff (parted : Parted text whole fraction) :
    Unsigned text ↔ Unsigned whole ∧ Unsigned fraction := by
  cases parted with
  | whole => simp [Unsigned]
  | point =>
      rw [Unsigned, List.forall_mem_append, List.forall_mem_cons,
        and_iff_right (show '.' ≠ '+' ∧ '.' ≠ '-' by decide)]
      exact Iff.rfl

theorem unsigned_of_isDigit (isDigit : ∀ c ∈ text, c.isDigit = true) : Unsigned text :=
  fun c mem => Text.ne_sign_of_isDigit (isDigit c mem)

theorem spells_of_unsigned (unsigned : Unsigned text) (spells : SpellsSigned text part) :
    ∃ n : Nat, Spells text n ∧ part = n := by
  cases spells with
  | bare spells => exact ⟨_, spells, rfl⟩
  | plus => exact absurd rfl (unsigned '+' List.mem_cons_self).1
  | minus => exact absurd rfl (unsigned '-' List.mem_cons_self).2

theorem SpellsCents.unsigned (spells : SpellsCents text cents) : Unsigned text := by
  obtain ⟨parted, whole_spells, isDigit, -⟩ := spells
  exact parted.unsigned_iff.mpr
    ⟨unsigned_of_isDigit whole_spells.isDigit, unsigned_of_isDigit isDigit⟩

/-- Up to two digits with zeros behind them. -/
theorem ofDigitChars_filled (digits : List Char) (yuan : Nat) (short : digits.length ≤ 2) :
    Nat.ofDigitChars 10 (digits ++ List.replicate (2 - digits.length) '0') yuan =
      yuan * 100 + Nat.ofDigitChars 10 (digits ++ List.replicate (2 - digits.length) '0') 0 := by
  rw [Nat.ofDigitChars_eq_ofDigitChars_zero, List.length_append, List.length_replicate,
    Nat.add_sub_cancel' short]
  omega

theorem ofDigitChars_tenths (c : Char) :
    Nat.ofDigitChars 10 ([c] ++ List.replicate (2 - [c].length) '0') 0 =
      Nat.ofDigitChars 10 [c] 0 * 10 := by
  simp [Nat.ofDigitChars_cons, Nat.mul_comm]

/-- Digits behind the point are read as the cents that they spell. -/
theorem readBehind_of_digits (isDigit : ∀ c ∈ fraction, c.isDigit = true)
    (short : fraction.length ≤ 2) :
    ReadBehind fraction
      (Nat.ofDigitChars 10 (fraction ++ List.replicate (2 - fraction.length) '0') 0 : Nat) := by
  match fraction, short with
  | [], _ => exact .nothing
  | [c], _ =>
      rw [ofDigitChars_tenths, Nat.cast_mul]
      exact .tenths ⟨List.cons_ne_nil c [], isDigit, rfl⟩
  | [c, d], _ => exact .hundredths (.bare ⟨List.cons_ne_nil c [d], isDigit, by simp⟩)

theorem digits_of_readBehind (unsigned : Unsigned fraction) (behind : ReadBehind fraction part) :
    (∀ c ∈ fraction, c.isDigit = true) ∧
      part =
        (Nat.ofDigitChars 10 (fraction ++ List.replicate (2 - fraction.length) '0') 0 : Nat) := by
  cases behind with
  | nothing => exact ⟨List.forall_mem_nil _, rfl⟩
  | tenths spells =>
      refine ⟨spells.isDigit, ?_⟩
      rw [ofDigitChars_tenths, spells.value, Nat.cast_mul]
      rfl
  | hundredths spells =>
      obtain ⟨n, digits, rfl⟩ := spells_of_unsigned unsigned spells
      refine ⟨digits.isDigit, ?_⟩
      rw [← digits.value]
      simp

/-- What spells an amount is read as that. -/
theorem SpellsCents.readAs (spells : SpellsCents text cents) : ReadAs text cents := by
  obtain @⟨whole, fraction, yuan, parted, whole_spells, isDigit, short⟩ := spells
  rw [ofDigitChars_filled fraction yuan short]
  push_cast
  exact .intro parted (.bare whole_spells) (Int.natCast_nonneg yuan)
    (readBehind_of_digits isDigit short)

theorem SpellsCents.unique {other : Int} (spells : SpellsCents text cents)
    (spells_too : SpellsCents text other) : cents = other := by
  obtain ⟨parted, whole_spells, -, -⟩ := spells
  obtain ⟨parted_too, whole_spells_too, -, -⟩ := spells_too
  obtain ⟨rfl, rfl⟩ := Prod.mk.inj ((parted_iff.mp parted).symm.trans (parted_iff.mp parted_too))
  rw [← whole_spells.value, whole_spells_too.value]

/-- Without signs, nothing else is read. -/
theorem ReadAs.spellsCents (unsigned : Unsigned text) (read : ReadAs text cents) :
    SpellsCents text cents := by
  obtain @⟨whole, fraction, yuan, part, parted, whole_spells, -, behind⟩ := read
  obtain ⟨whole_unsigned, fraction_unsigned⟩ := parted.unsigned_iff.mp unsigned
  obtain ⟨yuan, digits, rfl⟩ := spells_of_unsigned whole_unsigned whole_spells
  obtain ⟨isDigit, rfl⟩ := digits_of_readBehind fraction_unsigned behind
  have spells := SpellsCents.intro parted digits isDigit behind.length_le
  rw [ofDigitChars_filled fraction yuan behind.length_le] at spells
  exact_mod_cast spells

/-! ## Amounts -/

theorem isBlank_eq_false_of_isDigit {c : Char} (digit : c.isDigit = true) :
    Text.isBlank c = false := by
  simp only [Char.isDigit, Bool.and_eq_true, decide_eq_true_eq, UInt32.le_iff_toNat_le] at digit
  have bounds : 48 ≤ c.toNat ∧ c.toNat ≤ 57 := digit
  simp only [Text.isBlank, Bool.or_eq_false_iff, Bool.and_eq_false_iff, decide_eq_false_iff_not]
  omega

theorem SpellsCents.trim_eq (spells : SpellsCents text cents) : Text.trim text = text := by
  obtain ⟨parted, whole_spells, isDigit, -⟩ := spells
  have solid : ∀ c ∈ text, Text.isBlank c = false := by
    intro c mem
    cases parted with
    | whole => exact isBlank_eq_false_of_isDigit (whole_spells.isDigit c mem)
    | point =>
        rcases List.mem_append.mp mem with front | behind
        · exact isBlank_eq_false_of_isDigit (whole_spells.isDigit c front)
        · rcases List.mem_cons.mp behind with rfl | behind
          · rfl
          · exact isBlank_eq_false_of_isDigit (isDigit c behind)
  exact Text.trim_eq_self (fun c first => solid c (List.mem_of_head? first))
    fun c last => solid c (List.mem_of_getLast? last)

/-- A text that spells an amount is read as that amount, if it has 64 bits. -/
theorem SpellsCents.parseCents_eq (spells : SpellsCents amount.toList cents) :
    parseCents amount = checked cents := by
  apply Option.ext
  intro read
  rw [parseCents_eq_some_iff, checked_eq_some_iff, spells.trim_eq]
  constructor
  · rintro ⟨read_as, fits⟩
    obtain rfl := (read_as.spellsCents spells.unsigned).unique spells
    exact ⟨fits, rfl⟩
  · rintro ⟨fits, rfl⟩
    exact ⟨spells.readAs, fits⟩

/-- An amount is read exactly if its text, without the blanks around it, is read part by part, and
the cents have 64 bits. These are the amounts that are spelled by digits alone, and no other texts
are read, exactly as far as there is no sign: a text with a sign in it spells no amount, but is read
if the sign is one that the parts may have. -/
theorem amount_read_iff (amount : String) :
    (∀ cents, parseCents amount = some cents ↔
      ReadAs (Text.trim amount.toList) cents ∧ Text.fitsInt64 cents = true) ∧
    ((∀ cents, parseCents amount = some cents ↔
        SpellsCents (Text.trim amount.toList) cents ∧ Text.fitsInt64 cents = true) ↔
      parseCents amount = none ∨ Unsigned (Text.trim amount.toList)) := by
  refine ⟨fun cents => parseCents_eq_some_iff, ?_⟩
  constructor
  · intro agree
    cases read : parseCents amount with
    | none => exact Or.inl rfl
    | some cents => exact Or.inr ((agree cents).mp read).1.unsigned
  · rintro (refused | unsigned) cents
    · rw [refused]
      constructor
      · exact nofun
      · rintro ⟨spells, fits⟩
        rw [parseCents_eq_some_iff.mpr ⟨spells.readAs, fits⟩] at refused
        cases refused
    · rw [parseCents_eq_some_iff]
      constructor
      · rintro ⟨read, fits⟩
        exact ⟨read.spellsCents unsigned, fits⟩
      · rintro ⟨spells, fits⟩
        exact ⟨spells.readAs, fits⟩

example : parseCents " 12.5 " = some 1250 := by decide +kernel

/-- A cent less than nothing is read as such, and minus half a yuan as half a yuan. Neither text
spells an amount. A minus sign in front of a number above zero is refused. -/
theorem signed_amounts_read :
    parseCents "0.-1" = some (-1) ∧ parseCents "-0.5" = some 50 ∧ parseCents "-1" = none ∧
      (∀ cents, ¬ SpellsCents (Text.trim "0.-1".toList) cents) ∧
      ∀ cents, ¬ SpellsCents (Text.trim "-0.5".toList) cents := by
  have minus_behind : '-' ∈ Text.trim "0.-1".toList := by decide +kernel
  have minus_in_front : '-' ∈ Text.trim "-0.5".toList := by decide +kernel
  refine ⟨?_, ?_, ?_, ?_, ?_⟩
  · decide +kernel
  · decide +kernel
  · decide +kernel
  · exact fun cents spells => (spells.unsigned '-' minus_behind).2 rfl
  · exact fun cents spells => (spells.unsigned '-' minus_in_front).2 rfl

/-! ## Writing -/

theorem toList_formatCents (cents : Nat) :
    (formatCents cents).toList =
      Nat.toDigits 10 (cents / 100) ++ '.' :: (Text.padded 2 (cents % 100)).toList := by
  have whole : (toString ((cents : Int).tdiv 100)).toList = Nat.toDigits 10 (cents / 100) :=
    Nat.toList_repr
  have hundredths : ((cents : Int).tmod 100).natAbs = cents % 100 := rfl
  rw [formatCents, hundredths]
  simp only [String.toList_append, whole, List.append_assoc]
  rfl

/-- What is written for a number of cents spells that number. -/
theorem spellsCents_formatCents (cents : Nat) : SpellsCents (formatCents cents).toList cents := by
  have noPoint : '.' ∉ Nat.toDigits 10 (cents / 100) := by
    intro mem
    exact absurd (Nat.isDigit_of_mem_toDigits (by decide) (by decide) mem) (by decide)
  have whole_spells : Spells (Nat.toDigits 10 (cents / 100)) (cents / 100) := {
    nonempty := Nat.toDigits_ne_nil
    isDigit := fun c mem => Nat.isDigit_of_mem_toDigits (by decide) (by decide) mem
    value := Nat.ofDigitChars_ten_toDigits }
  have length : (Text.padded 2 (cents % 100)).toList.length = 2 :=
    Text.length_padded (by decide) (Nat.mod_lt cents (by decide))
  have spells := SpellsCents.intro (.point noPoint (Text.padded 2 (cents % 100)).toList)
    whole_spells (fun c mem => Text.isDigit_of_mem_padded mem) (Nat.le_of_eq length)
  rw [ofDigitChars_filled _ _ (Nat.le_of_eq length), length, Nat.sub_self, List.replicate_zero,
    List.append_nil, Text.ofDigitChars_padded, Nat.div_add_mod'] at spells
  rwa [toList_formatCents]

end Tollgate.Tickets
