import Tollgate.Tickets.Amount

/-!
# What amounts buy

An amount that can be credited buys more than nothing exactly if it is more than nothing: a cent
buys whole bytes at any price, because a MiB has more bytes than a yuan has cents. And what it buys
is a hundredth of a 64-bit number.
-/

namespace Tollgate.Tickets

variable {price cents bytes : Int}

theorem checked_eq_some_iff {n m : Int} : checked n = some m ↔ Text.fitsInt64 n = true ∧ n = m := by
  rw [checked, Option.ite_none_right_eq_some, Option.some.injEq]

/-- What an amount buys, if both products have 64 bits. -/
theorem creditBytes_eq_some_iff :
    creditBytes price cents = some bytes ↔
      Text.fitsInt64 (cents * price) = true ∧
        Text.fitsInt64 (cents * price * bytesPerMib) = true ∧
        (cents * price * bytesPerMib).tdiv 100 = bytes := by
  simp only [creditBytes, Option.bind_eq_bind, Option.bind_eq_some_iff, checked_eq_some_iff,
    Option.pure_def, Option.some.injEq]
  constructor
  · rintro ⟨_, ⟨fits, rfl⟩, _, ⟨fits_too, rfl⟩, bought⟩
    exact ⟨fits, fits_too, bought⟩
  · rintro ⟨fits, fits_too, bought⟩
    exact ⟨_, ⟨fits, rfl⟩, _, ⟨fits_too, rfl⟩, bought⟩

/-- An amount buys bytes exactly if it is positive. -/
theorem creditBytes_pos_iff (priced : 0 < price) (bought : creditBytes price cents = some bytes) :
    0 < bytes ↔ 0 < cents := by
  obtain ⟨-, -, rfl⟩ := creditBytes_eq_some_iff.mp bought
  have monotone : ∀ {n m : Int}, n ≤ m → n.tdiv 100 ≤ m.tdiv 100 := Int.tdiv_le_tdiv (by decide)
  constructor
  · intro positive
    rcases Int.lt_or_le 0 cents with paid | nothing
    · exact paid
    · have owed : cents * price ≤ 0 :=
        Int.mul_nonpos_of_nonpos_of_nonneg nothing (Int.le_of_lt priced)
      have bought_nothing : (cents * price * bytesPerMib).tdiv 100 ≤ (0 : Int).tdiv 100 := by
        apply monotone
        simp only [bytesPerMib]
        omega
      exact absurd positive (Int.not_lt.mpr bought_nothing)
  · intro paid
    have owed : 0 < cents * price := Int.mul_pos paid priced
    have enough : (100 : Int).tdiv 100 ≤ (cents * price * bytesPerMib).tdiv 100 := by
      apply monotone
      simp only [bytesPerMib]
      omega
    exact Int.lt_of_lt_of_le (by decide) enough

/-- What an amount buys is a hundredth of a 64-bit number. -/
theorem creditBytes_le (bought : creditBytes price cents = some bytes) :
    bytes ≤ Text.maxInt64.tdiv 100 := by
  obtain ⟨-, fits, rfl⟩ := creditBytes_eq_some_iff.mp bought
  exact Int.tdiv_le_tdiv (by decide) (Text.fitsInt64_iff.mp fits).2

end Tollgate.Tickets
