import Tollgate.Config.File
import Tollgate.Proofs.Text.Decimal
import Tollgate.Proofs.Toml.Strings

/-!
# Values are read back

The values of settings are strings, whole numbers of 64 bits and truth values. Behind each stands a
line break. A number is one bare word of digits, perhaps behind a minus sign: it has no underscores,
no zeros in front, and cannot be taken for a date.
-/

namespace Tollgate.Toml

open Config (Node)
open Text.Reader

variable {rest token : List Char} {n : Int}

/-! ## Whole numbers -/

theorem digits?_of_digits {base : Nat} {text : List Char} (some_text : text ≠ [])
    (digits : ∀ c ∈ text, (Text.digitOf? base c).isSome = true) :
    digits? base text = some text := by
  induction text with
  | nil => exact absurd rfl some_text
  | cons c text ih =>
      obtain ⟨here, later⟩ := List.forall_mem_cons.mp digits
      cases text with
      | nil => simp [digits?, here]
      | cons next text =>
          have noUnderscore : next ≠ '_' := by
            rintro rfl
            cases later '_' List.mem_cons_self
          rw [digits?.eq_4 base c (next :: text) (by simp) (by simp [noUnderscore]), if_pos here,
            ih (List.cons_ne_nil _ _) later]
          rfl

/-- The digits of a number have no zero in front. -/
theorem decimalDigits?_toDigits (n : Nat) :
    decimalDigits? (Nat.toDigits 10 n) = some (Nat.toDigits 10 n) := by
  rcases Nat.eq_zero_or_pos n with rfl | pos
  · rfl
  · have first : (Nat.toDigits 10 n).head? ≠ some '0' :=
      Text.head?_toDigits_ne_zero (by decide) (by decide) pos
    have digits : ∀ c ∈ Nat.toDigits 10 n, (Text.digitOf? 10 c).isSome = true :=
      fun c mem => Text.isSome_digitOf?_of_mem_toDigits (by decide) (by decide) mem
    have read := digits?_of_digits Nat.toDigits_ne_nil digits
    unfold decimalDigits?
    split
    next zero => simp [zero] at first
    next zero => simp [zero] at first
    next => exact read

theorem natural_toDigits (n : Nat) :
    integer?.natural 10 (decimalDigits? (Nat.toDigits 10 n)) = some (n : Int) := by
  have read : Text.natural? 10 (Nat.toDigits 10 n) = some n :=
    Text.natural?_toDigits (by decide) (by decide) n
  simp [integer?.natural, decimalDigits?_toDigits, read]

theorem not_toDigits_eq_cons {n : Nat} {c : Char} {text : List Char} (other : c.isDigit = false) :
    ∀ before, Nat.toDigits 10 n ≠ before ++ c :: text := by
  intro before same
  have digit := Nat.isDigit_of_mem_toDigits (b := 10) (n := n) (c := c) (by decide) (by decide)
  rw [same, other] at digit
  cases digit (List.mem_append_right _ List.mem_cons_self)

theorem signed_toDigits (n : Nat) : signed (Nat.toDigits 10 n) = (false, Nat.toDigits 10 n) := by
  unfold signed
  split
  next digits minus => exact absurd minus (not_toDigits_eq_cons (by decide) [])
  next digits plus => exact absurd plus (not_toDigits_eq_cons (by decide) [])
  next => rfl

theorem toList_toString_ofNat (n : Nat) : (toString (Int.ofNat n)).toList = Nat.toDigits 10 n :=
  Nat.toList_repr

theorem toList_toString_negSucc (n : Nat) :
    (toString (Int.negSucc n)).toList = '-' :: Nat.toDigits 10 (n + 1) := by
  change ("-" ++ Nat.repr (n + 1)).toList = _
  rw [String.toList_append, Nat.toList_repr]
  rfl

/-- A whole number of 64 bits is read back. -/
theorem integer?_toString (fits : Text.fitsInt64 n = true) :
    integer? (toString n).toList = some n := by
  cases n with
  | ofNat n =>
      rw [toList_toString_ofNat]
      unfold integer?
      split
      next digits hex => exact absurd hex (not_toDigits_eq_cons (by decide) ['0'])
      next digits octal => exact absurd octal (not_toDigits_eq_cons (by decide) ['0'])
      next digits binary => exact absurd binary (not_toDigits_eq_cons (by decide) ['0'])
      next =>
          simp only [signed_toDigits, natural_toDigits, Option.map_some]
          exact Option.filter_some_pos fits
  | negSucc n =>
      rw [toList_toString_negSucc]
      simp only [integer?, signed, natural_toDigits, Option.map_some, if_true]
      exact Option.filter_some_pos fits

/-! ## Bare words -/

theorem isBareValueChar_of_isDigit {c : Char} (digit : c.isDigit = true) :
    isBareValueChar c = true := by
  simp [isBareValueChar, Char.isAlphanum, digit]

/-- A whole number is made of bare characters, digits but for a minus sign in front. -/
theorem bareChars_toString (n : Int) :
    (∀ c ∈ (toString n).toList, isBareValueChar c = true) ∧
      ∀ c ∈ (toString n).toList.tail, c.isDigit = true := by
  have digits : ∀ (n : Nat), ∀ c ∈ Nat.toDigits 10 n, c.isDigit = true :=
    fun n c mem => Nat.isDigit_of_mem_toDigits (by decide) (by decide) mem
  cases n with
  | ofNat n =>
      rw [toList_toString_ofNat]
      refine ⟨fun c mem => isBareValueChar_of_isDigit (digits n c mem), ?_⟩
      exact fun c mem => digits n c (List.mem_of_mem_tail mem)
  | negSucc n =>
      rw [toList_toString_negSucc]
      refine ⟨List.forall_mem_cons.mpr ⟨rfl, ?_⟩, digits (n + 1)⟩
      exact fun c mem => isBareValueChar_of_isDigit (digits (n + 1) c mem)

theorem isDate_eq_false_of_digits {text : List Char} (digits : ∀ c ∈ text.tail, c.isDigit = true) :
    isDate text = false := by
  have noMinus : text[4]? ≠ some '-' := by
    intro minus
    cases text with
    | nil => cases minus
    | cons c text => cases digits '-' (List.mem_of_getElem? minus)
  unfold isDate
  cases field? 4 (text.take 4) with
  | none => rfl
  | some year =>
  cases field? 2 ((text.drop 5).take 2) with
  | none => rfl
  | some month =>
  cases field? 2 (text.drop 8) with
  | none => rfl
  | some day => simp [noMinus]

theorem bareValue?_toString (fits : Text.fitsInt64 n = true) :
    bareValue? (toString n).toList = some (.integer n) := by
  have read := integer?_toString fits
  unfold bareValue?
  rw [String.ofList_toList]
  split
  next isTrue =>
      rw [isTrue] at read
      cases read
  next isFalse =>
      rw [isFalse] at read
      cases read
  next => rw [read]

/-- A bare word is taken up to the end of its line. -/
theorem run_bare (all : ∀ c ∈ token, isBareValueChar c = true) (noDate : isDate token = false)
    (rest : List Char) :
    StateT.run bare (token ++ '\n' :: rest) =
      (bareValue? token).map fun node => (node, '\n' :: rest) := by
  rw [bare, StateT.run_bind, run_run_append all (stops_cons (by decide) rest)]
  cases read : bareValue? token <;> simp [noDate, read]

theorem run_value_word (some_token : token ≠ []) (all : ∀ c ∈ token, isBareValueChar c = true)
    (noDate : isDate token = false) (depth steps : Nat) (rest : List Char) :
    StateT.run (value depth (steps + 1)) (token ++ '\n' :: rest) =
      (bareValue? token).map fun node => (node, '\n' :: rest) := by
  rw [← run_bare all noDate]
  obtain ⟨first, token, rfl⟩ := List.exists_cons_of_ne_nil some_token
  have start : isBareValueChar first = true := all first List.mem_cons_self
  rw [value]
  simp only [StateT.run_bind, run_peek, List.cons_append, List.head?_cons, Option.bind_eq_bind,
    Option.bind_some]
  split
  next quote =>
      cases quote
      cases start
  next quote =>
      cases quote
      cases start
  next bracket =>
      cases bracket
      cases start
  next brace =>
      cases brace
      cases start
  next => rfl

/-! ## Values of settings -/

/-- What settings are set to: strings, 64-bit integers and truth values. -/
inductive IsScalar : Node → Prop where
  | text (value : String) : IsScalar (.text value)
  | integer {value : Int} (fits : Text.fitsInt64 value = true) : IsScalar (.integer value)
  | boolean (value : Bool) : IsScalar (.boolean value)

/-- The value of a setting is read back from what is written for it. -/
theorem run_value_valueText {node : Node} (scalar : IsScalar node) (depth steps : Nat)
    (rest : List Char) :
    StateT.run (value depth (steps + 1)) ((Config.valueText node).toList ++ '\n' :: rest) =
      some (node, '\n' :: rest) := by
  cases scalar with
  | text written =>
      have stops : NoQuote ('\n' :: rest) := stops_cons (by decide) rest
      obtain ⟨quote, kind, head, read⟩ := run_string_write written.toList stops
      rw [String.ofList_toList] at read
      rw [Config.valueText, String.toList_ofList, value]
      rcases kind with rfl | rfl
      · simp [head, read]
      · simp [head, read]
  | @integer n fits =>
      obtain ⟨bareChars, digits⟩ := bareChars_toString n
      have some_text : (toString n).toList ≠ [] := by
        intro nothing
        have read := integer?_toString fits
        rw [nothing] at read
        cases read
      rw [Config.valueText,
        run_value_word some_text bareChars (isDate_eq_false_of_digits digits),
        bareValue?_toString fits]
      rfl
  | boolean truth =>
      cases truth with
      | false =>
          have bare := List.all_eq_true.mp (by decide : "false".toList.all isBareValueChar = true)
          exact run_value_word (by decide) bare (by decide) depth steps rest
      | true =>
          have bare := List.all_eq_true.mp (by decide : "true".toList.all isBareValueChar = true)
          exact run_value_word (by decide) bare (by decide) depth steps rest

theorem IsScalar.stops_isBlank {node : Node} (scalar : IsScalar node) (rest : List Char) :
    Stops isBlank ((Config.valueText node).toList ++ '\n' :: rest) := by
  have word : ∀ token : List Char, (∀ c ∈ token, isBareValueChar c = true) →
      Stops isBlank (token ++ '\n' :: rest) := by
    rintro (_ | ⟨first, token⟩) all
    · exact stops_cons (by decide) rest
    · have noSpace : first ≠ ' ' := by
        rintro rfl
        cases all ' ' List.mem_cons_self
      have noTab : first ≠ '\t' := by
        rintro rfl
        cases all '\t' List.mem_cons_self
      exact stops_cons (by simp [isBlank, noSpace, noTab]) (token ++ '\n' :: rest)
  cases scalar with
  | text written =>
      have stops : NoQuote ('\n' :: rest) := stops_cons (by decide) rest
      obtain ⟨quote, kind, head, -⟩ := run_string_write written.toList stops
      rw [Config.valueText, String.toList_ofList]
      intro c c_head
      rw [List.head?_append, head] at c_head
      obtain rfl := Option.some.inj c_head
      rcases kind with rfl | rfl
      · decide
      · decide
  | @integer n fits => exact word _ (bareChars_toString n).1
  | boolean truth =>
      cases truth with
      | false => exact word _ (List.all_eq_true.mp (by decide))
      | true => exact word _ (List.all_eq_true.mp (by decide))

end Tollgate.Toml
