import Tollgate.Proofs.Octets
import Tollgate.Text.Base64

/-!
# Reading back what was encoded

The symbols of an encoding stand for the six bits that they were chosen for, and the bits of a group
spell the octets of the group. Padding is written where the alphabet asks for it, behind the symbols
of a last group that lacks some, and nowhere else. So a decoder gives back any octets that were
encoded.
-/

namespace Tollgate.Text.Base64

variable {alphabet : Alphabet} {offset place bits : Nat} {values : List Nat} {rest : Octets}

/-! ## Symbols -/

theorem bits?_symbol (alphabet : Alphabet) (sixBits : bits < 64) :
    bits? alphabet (symbol alphabet bits) = some bits := by
  revert bits
  cases alphabet <;> decide

theorem symbol_ne_padding (alphabet : Alphabet) (sixBits : bits < 64) :
    symbol alphabet bits ≠ padding := by
  revert bits
  cases alphabet <;> decide

theorem bitsAt_symbol (sixBits : bits < 64) :
    bitsAt alphabet offset (symbol alphabet bits) = .ok bits := by
  rw [bitsAt, bits?_symbol alphabet sixBits]

/-- Nothing but symbols is written, and padding for a last group. -/
theorem mem_encode {bytes : Octets} {byte : UInt8} (mem : byte ∈ encode alphabet bytes) :
    (∃ bits < 64, byte = symbol alphabet bits) ∨ ∃ missing, byte ∈ fill alphabet missing := by
  induction bytes using encode.induct with
  | case1 a b c rest ih =>
      have a_lt := a.toNat_lt
      have b_lt := b.toNat_lt
      have c_lt := c.toNat_lt
      simp only [encode, List.mem_cons] at mem
      rcases mem with rfl | rfl | rfl | rfl | mem
      · exact Or.inl ⟨_, by omega, rfl⟩
      · exact Or.inl ⟨_, Nat.mod_lt _ (by decide), rfl⟩
      · exact Or.inl ⟨_, Nat.mod_lt _ (by decide), rfl⟩
      · exact Or.inl ⟨_, Nat.mod_lt _ (by decide), rfl⟩
      · exact ih mem
  | case2 a b =>
      have a_lt := a.toNat_lt
      have b_lt := b.toNat_lt
      simp only [encode, List.mem_cons] at mem
      rcases mem with rfl | rfl | rfl | mem
      · exact Or.inl ⟨_, by omega, rfl⟩
      · exact Or.inl ⟨_, Nat.mod_lt _ (by decide), rfl⟩
      · exact Or.inl ⟨_, Nat.mod_lt _ (by decide), rfl⟩
      · exact Or.inr ⟨1, mem⟩
  | case3 a =>
      have a_lt := a.toNat_lt
      simp only [encode, List.mem_cons] at mem
      rcases mem with rfl | rfl | mem
      · exact Or.inl ⟨_, by omega, rfl⟩
      · exact Or.inl ⟨_, Nat.mod_lt _ (by decide), rfl⟩
      · exact Or.inr ⟨2, mem⟩
  | case4 => cases mem

theorem exists_symbol_of_mem_encode {bytes : Octets} {byte : UInt8}
    (mem : byte ∈ encode .urlSafe bytes) : ∃ bits < 64, byte = symbol .urlSafe bits := by
  rcases mem_encode mem with isSymbol | ⟨missing, mem⟩
  · exact isSymbol
  · cases mem

theorem eq_padding_of_mem_fill {missing : Nat} {byte : UInt8}
    (mem : byte ∈ fill alphabet missing) : byte = padding := by
  cases alphabet with
  | standard => exact List.eq_of_mem_replicate mem
  | urlSafe => cases mem

theorem encode_ne_nil (byte : UInt8) (rest : Octets) : encode alphabet (byte :: rest) ≠ [] := by
  match rest with
  | [] => simp [encode]
  | [_] => simp [encode]
  | _ :: _ :: _ => simp [encode]

/-- Without padding, each octet takes a third more than one symbol, rounded up. -/
theorem length_encode (bytes : Octets) :
    (encode .urlSafe bytes).length = (bytes.length * 4 + 2) / 3 := by
  induction bytes using encode.induct with
  | case1 a b c rest ih =>
      simp only [encode, List.length_cons, ih]
      omega
  | case2 a b => simp [encode, fill]
  | case3 a => simp [encode, fill]
  | case4 => rfl

/-! ## Groups -/

/-- Padding is passed over from the third place on. -/
theorem lastBits_fill (offset place missing : Nat) (paddedFrom : Option Nat)
    (behind : 2 ≤ place ∨ missing = 0) :
    lastBits alphabet offset place paddedFrom (fill alphabet missing) = .ok [] := by
  cases alphabet with
  | urlSafe => rfl
  | standard =>
      rw [fill]
      induction missing generalizing place paddedFrom with
      | zero => rfl
      | succ missing ih =>
          have third : ¬ place < 2 := by omega
          simp only [List.replicate_succ, lastBits, if_true, if_neg third]
          exact ih (place + 1) _ (Or.inl (by omega))

theorem lastBits_symbols (offset place missing : Nat) (sixBits : ∀ bits ∈ values, bits < 64)
    (behind : 2 ≤ place + values.length ∨ missing = 0) :
    lastBits alphabet offset place none (values.map (symbol alphabet) ++ fill alphabet missing) =
      .ok values := by
  induction values generalizing place with
  | nil => exact lastBits_fill offset place missing none behind
  | cons bits values ih =>
      have first : bits < 64 := sixBits bits List.mem_cons_self
      have later : lastBits alphabet offset (place + 1) none
          (values.map (symbol alphabet) ++ fill alphabet missing) = .ok values := by
        refine ih (place + 1) (fun other mem => sixBits other (List.mem_cons_of_mem bits mem)) ?_
        rw [List.length_cons] at behind
        omega
      simp [lastBits, symbol_ne_padding alphabet first, bits?_symbol alphabet first, later,
        Except.map]

/-- The number that groups of six bits spell. -/
def spelled (values : List Nat) : Nat := values.foldl (fun n bits => n * 64 + bits) 0

/-- A last group of symbols that spells its octets, with bits behind them that are zero, and with
padding for the symbols that it lacks. -/
theorem decodeLast_symbols {group : Octets} (alphabet : Alphabet) (offset : Nat)
    (values : List Nat) (unused missing : Nat) (sixBits : ∀ bits ∈ values, bits < 64)
    (nonempty : group ≠ []) (fills : values.length * 6 = group.length * 8 + unused)
    (short : unused < 8) (whole : values.length + missing = 4)
    (number : spelled values = Octets.toNat group * 2 ^ unused) :
    decodeLast alphabet offset (values.map (symbol alphabet) ++ fill alphabet missing) =
      .ok group := by
  have octets := List.length_pos_iff.mpr nonempty
  have enough : ¬ values.length < 2 := by omega
  have read : lastBits alphabet offset 0 none
      (values.map (symbol alphabet) ++ fill alphabet missing) = .ok values :=
    lastBits_symbols offset 0 missing sixBits (Or.inl (by omega))
  have fits : paddingFits alphabet values.length
      (values.length + (fill alphabet missing).length) = true := by
    cases alphabet with
    | standard => simp [paddingFits, fill, whole]
    | urlSafe => simp [paddingFits, fill]
  have count : values.length * 6 / 8 = group.length := by omega
  have behind : values.length * 6 % 8 = unused := by omega
  have zero : spelled values % 2 ^ unused = 0 := by rw [number, Nat.mul_mod_left]
  have front : spelled values >>> unused = Octets.toNat group := by
    rw [number, Nat.shiftRight_eq_div_pow, Nat.mul_div_cancel _ (Nat.two_pow_pos unused)]
  rw [spelled] at zero front
  simp [decodeLast, read, fits, bind, Except.bind, enough, count, behind, Nat.one_shiftLeft, zero,
    front, Octets.ofNat_toNat, pure, Except.pure]

theorem decodeFrom_group {p q r s : Nat} (hp : p < 64) (hq : q < 64) (hr : r < 64) (hs : s < 64)
    (offset : Nat) (more : rest ≠ []) :
    decodeFrom alphabet offset
        (symbol alphabet p :: symbol alphabet q :: symbol alphabet r :: symbol alphabet s :: rest) =
      (decodeFrom alphabet (offset + 4) rest).map (Octets.ofNat 3 (spelled [p, q, r, s]) ++ ·) := by
  cases rest with
  | nil => exact absurd rfl more
  | cons e rest =>
      simp only [decodeFrom, bitsAt_symbol hp, bitsAt_symbol hq, bitsAt_symbol hr,
        bitsAt_symbol hs, bind, Except.bind]
      cases decodeFrom alphabet (offset + 4) (e :: rest) <;>
        simp [Except.map, pure, Except.pure, spelled]

/-! ## The round trip -/

theorem decodeFrom_encode (alphabet : Alphabet) (offset : Nat) (bytes : Octets) :
    decodeFrom alphabet offset (encode alphabet bytes) = .ok bytes := by
  induction bytes using encode.induct generalizing offset with
  | case1 a b c rest ih =>
      have a_lt := a.toNat_lt
      have b_lt := b.toNat_lt
      have c_lt := c.toNat_lt
      simp only [encode]
      generalize n_eq : (a.toNat * 256 + b.toNat) * 256 + c.toNat = n
      have number : spelled [n / 262144, n / 4096 % 64, n / 64 % 64, n % 64] =
          Octets.toNat [a, b, c] := by
        simp only [spelled, Octets.toNat, List.foldl_cons, List.foldl_nil]
        omega
      cases rest with
      | nil =>
          have last := decodeLast_symbols alphabet offset
            [n / 262144, n / 4096 % 64, n / 64 % 64, n % 64] 0 0 (by simp; omega)
            (List.cons_ne_nil a _) rfl (by decide) rfl (number.trans (Nat.mul_one _).symm)
          cases alphabet <;> exact last
      | cons d rest =>
          rw [decodeFrom_group (by omega) (Nat.mod_lt _ (by decide)) (Nat.mod_lt _ (by decide))
            (Nat.mod_lt _ (by decide)) offset (encode_ne_nil d rest), ih, number]
          exact congrArg (fun front => Except.ok (front ++ d :: rest))
            (Octets.ofNat_toNat [a, b, c])
  | case2 a b =>
      have a_lt := a.toNat_lt
      have b_lt := b.toNat_lt
      simp only [encode]
      generalize n_eq : (a.toNat * 256 + b.toNat) * 4 = n
      have number : spelled [n / 4096, n / 64 % 64, n % 64] = Octets.toNat [a, b] * 2 ^ 2 := by
        simp only [spelled, Octets.toNat, List.foldl_cons, List.foldl_nil]
        omega
      have last := decodeLast_symbols alphabet offset [n / 4096, n / 64 % 64, n % 64] 2 1
        (by simp; omega) (List.cons_ne_nil a _) rfl (by decide) rfl number
      cases alphabet <;> exact last
  | case3 a =>
      have a_lt := a.toNat_lt
      simp only [encode]
      generalize n_eq : a.toNat * 16 = n
      have number : spelled [n / 64, n % 64] = Octets.toNat [a] * 2 ^ 4 := by
        simp only [spelled, Octets.toNat, List.foldl_cons, List.foldl_nil]
        omega
      have last := decodeLast_symbols alphabet offset [n / 64, n % 64] 4 2 (by simp; omega)
        (List.cons_ne_nil a _) rfl (by decide) rfl number
      cases alphabet <;> exact last
  | case4 => cases alphabet <;> rfl

theorem decode_encode (alphabet : Alphabet) (bytes : Octets) :
    decode alphabet (encode alphabet bytes) = .ok bytes := by
  rw [decode]
  split
  next last ends =>
      have known : ¬ (last ≠ padding ∧ bits? alphabet last = none) := by
        rintro ⟨not_padding, not_symbol⟩
        rcases mem_encode (List.mem_of_getLast? ends) with ⟨bits, sixBits, rfl⟩ | ⟨_, inFill⟩
        · rw [bits?_symbol alphabet sixBits] at not_symbol
          cases not_symbol
        · exact not_padding (eq_padding_of_mem_fill inFill)
      rw [if_neg fun odd => known odd.2, decodeFrom_encode]
  next => exact decodeFrom_encode alphabet 0 bytes

end Tollgate.Text.Base64
