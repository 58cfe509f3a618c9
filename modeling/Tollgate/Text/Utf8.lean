import Tollgate.Octets

/-!
# Reading damaged UTF-8

Octets that are not well-formed UTF-8 still have a text: each longest start of a character that
cannot be completed is shown as one replacement character.
-/

namespace Tollgate.Text.Utf8

/-- How many octets a sequence with this first octet takes, and the range that its second octet
must be in; nothing for octets that start no sequence. -/
def lead? (byte : UInt8) : Option (Nat × UInt8 × UInt8) :=
  if byte < 0x80 then some (1, 0, 0)
  else if 0xC2 ≤ byte && byte ≤ 0xDF then some (2, 0x80, 0xBF)
  else if byte = 0xE0 then some (3, 0xA0, 0xBF)
  else if byte = 0xED then some (3, 0x80, 0x9F)
  else if 0xE1 ≤ byte && byte ≤ 0xEF then some (3, 0x80, 0xBF)
  else if byte = 0xF0 then some (4, 0x90, 0xBF)
  else if 0xF1 ≤ byte && byte ≤ 0xF3 then some (4, 0x80, 0xBF)
  else if byte = 0xF4 then some (4, 0x80, 0x8F)
  else none

private def isTail (byte : UInt8) : Bool := 0x80 ≤ byte && byte ≤ 0xBF

/-- The value of the payload bits of a sequence. -/
def codePoint : Octets → Nat
  | [a] => a.toNat
  | [a, b] => a.toNat % 32 * 64 + b.toNat % 64
  | [a, b, c] => (a.toNat % 16 * 64 + b.toNat % 64) * 64 + c.toNat % 64
  | [a, b, c, d] => ((a.toNat % 8 * 64 + b.toNat % 64) * 64 + c.toNat % 64) * 64 + d.toNat % 64
  | _ => 0xFFFD

/-- The continuation octets that follow a first octet, as far as they are valid. -/
private def tailOf (length : Nat) (low high : UInt8) : Octets → Octets
  | second :: rest =>
    if low ≤ second && second ≤ high then second :: (rest.take (length - 2)).takeWhile isTail
    else []
  | [] => []

/-- The characters that octets spell, with replacement characters for what is malformed. -/
def decodeLossy : Octets → List Char
  | [] => []
  | first :: rest =>
    match lead? first with
    | none => '\uFFFD' :: decodeLossy rest
    | some (1, _, _) => Char.ofNat first.toNat :: decodeLossy rest
    | some (length, low, high) =>
      let tail := tailOf length low high rest
      let char :=
        if tail.length + 1 = length then Char.ofNat (codePoint (first :: tail)) else '\uFFFD'
      char :: decodeLossy (rest.drop tail.length)
termination_by bytes => bytes.length
decreasing_by all_goals simp_wf; try omega

/-! ## Well-formed octets -/

private theorem lead?_two : ∀ n < 32, 2 ≤ n →
    lead? (UInt8.ofNat (n + 192)) = some (2, 0x80, 0xBF) := by
  decide

private theorem lead?_three : ∀ n < 16, lead? (UInt8.ofNat (n + 224)) =
    some (3, if n = 0 then 0xA0 else 0x80, if n = 13 then 0x9F else 0xBF) := by
  decide

private theorem lead?_four : ∀ n < 5, lead? (UInt8.ofNat (n + 240)) =
    some (4, if n = 0 then 0x90 else 0x80, if n = 4 then 0x8F else 0xBF) := by
  decide

private theorem isTail_ofNat : ∀ n < 64, isTail (UInt8.ofNat (n + 128)) = true := by
  decide

private theorem toNat_ofNat_add {n base : Nat} (small : n + base < 256) :
    (UInt8.ofNat (n + base)).toNat = n + base := by
  rw [UInt8.toNat_ofNat', Nat.mod_eq_of_lt small]

private theorem within_iff {low high : UInt8} {n : Nat} (small : n < 64) :
    (low ≤ UInt8.ofNat (n + 128) && UInt8.ofNat (n + 128) ≤ high) = true ↔
      low.toNat ≤ n + 128 ∧ n + 128 ≤ high.toNat := by
  rw [Bool.and_eq_true, decide_eq_true_eq, decide_eq_true_eq, UInt8.le_iff_toNat_le,
    UInt8.le_iff_toNat_le, toNat_ofNat_add (by omega)]

/-- The octets of a character beyond ASCII are none of ASCII. -/
theorem le_of_mem_utf8EncodeChar {c : Char} (foreign : ¬ c.toNat < 128) :
    ∀ octet ∈ String.utf8EncodeChar c, 128 ≤ octet.toNat := by
  have large : ∀ n base : Nat, 128 ≤ base → n + base < 256 →
      128 ≤ (UInt8.ofNat (n + base)).toNat := by
    intro n base le small
    rw [toNat_ofNat_add small]
    omega
  rw [String.utf8EncodeChar.eq_1]
  simp only [show c.val.toNat = c.toNat from rfl]
  split
  next => omega
  next =>
    split
    next =>
      simp only [List.forall_mem_cons]
      exact ⟨large _ _ (by decide) (by omega), large _ _ (by decide) (by omega),
        List.forall_mem_nil _⟩
    next =>
      split
      next =>
        simp only [List.forall_mem_cons]
        exact ⟨large _ _ (by decide) (by omega), large _ _ (by decide) (by omega),
          large _ _ (by decide) (by omega), List.forall_mem_nil _⟩
      next =>
        simp only [List.forall_mem_cons]
        exact ⟨large _ _ (by decide) (by omega), large _ _ (by decide) (by omega),
          large _ _ (by decide) (by omega), large _ _ (by decide) (by omega),
          List.forall_mem_nil _⟩

/-- A sequence that is complete is taken off as one character. -/
private theorem decodeLossy_sequence {first second low high : UInt8} (more : Octets)
    (lead : lead? first = some (more.length + 2, low, high))
    (within : (low ≤ second && second ≤ high) = true) (tails : ∀ byte ∈ more, isTail byte = true)
    (rest : Octets) :
    decodeLossy (first :: second :: (more ++ rest)) =
      Char.ofNat (codePoint (first :: second :: more)) :: decodeLossy rest := by
  have all_tails : more.takeWhile isTail = more := by
    have whole : (more ++ []).takeWhile isTail = more ++ [].takeWhile isTail :=
      List.takeWhile_append_of_pos tails
    rwa [List.append_nil, List.takeWhile_nil, List.append_nil] at whole
  have tail : tailOf (more.length + 2) low high (second :: (more ++ rest)) = second :: more := by
    rw [tailOf, if_pos within, Nat.add_sub_cancel, List.take_left, all_tails]
  rw [decodeLossy]
  simp only [lead, tail]
  simp

/-- Decoding takes a character off the octets that it was written in, whatever follows. -/
theorem decodeLossy_utf8EncodeChar_append (c : Char) (rest : Octets) :
    decodeLossy (String.utf8EncodeChar c ++ rest) = c :: decodeLossy rest := by
  have valid : c.toNat < 0xD800 ∨ 0xDFFF < c.toNat ∧ c.toNat < 0x110000 := c.valid
  rw [String.utf8EncodeChar.eq_1]
  simp only [show c.val.toNat = c.toNat from rfl]
  split
  next one =>
    have lead : lead? (UInt8.ofNat c.toNat) = some (1, 0, 0) := by
      apply if_pos
      rw [UInt8.lt_iff_toNat_lt, UInt8.toNat_ofNat', Nat.mod_eq_of_lt (by omega)]
      exact Nat.lt_succ_of_le one
    rw [List.singleton_append, decodeLossy]
    simp only [lead]
    rw [UInt8.toNat_ofNat', Nat.mod_eq_of_lt (by omega), Char.ofNat_toNat]
  next =>
    split
    next two =>
      refine (decodeLossy_sequence [] (lead?_two _ (by omega) (by omega))
        (isTail_ofNat _ (by omega)) (List.forall_mem_nil _) rest).trans ?_
      congr 1
      rw [codePoint, toNat_ofNat_add (by omega), toNat_ofNat_add (by omega)]
      refine Eq.trans (congrArg Char.ofNat ?_) (Char.ofNat_toNat c)
      omega
    next =>
      split
      next three =>
        refine (decodeLossy_sequence [_] (lead?_three _ (by omega)) ?_
          (by simpa using isTail_ofNat _ (by omega)) rest).trans ?_
        · rw [within_iff (by omega)]
          split <;> split <;> simp <;> omega
        · congr 1
          rw [codePoint, toNat_ofNat_add (by omega), toNat_ofNat_add (by omega),
            toNat_ofNat_add (by omega)]
          refine Eq.trans (congrArg Char.ofNat ?_) (Char.ofNat_toNat c)
          omega
      next four =>
        refine (decodeLossy_sequence [_, _] (lead?_four _ (by omega)) ?_
          ?_ rest).trans ?_
        · rw [within_iff (by omega)]
          split <;> split <;> simp <;> omega
        · simp only [List.forall_mem_cons]
          exact ⟨isTail_ofNat _ (by omega), isTail_ofNat _ (by omega), List.forall_mem_nil _⟩
        · congr 1
          rw [codePoint, toNat_ofNat_add (by omega), toNat_ofNat_add (by omega),
            toNat_ofNat_add (by omega), toNat_ofNat_add (by omega)]
          refine Eq.trans (congrArg Char.ofNat ?_) (Char.ofNat_toNat c)
          omega

end Tollgate.Text.Utf8
