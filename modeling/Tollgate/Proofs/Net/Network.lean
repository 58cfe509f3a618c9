import Tollgate.Net.Address
import Mathlib.Algebra.Group.Nat.Defs
import Mathlib.Tactic.Common

/-!
# Networks of addresses

The bits of an address are counted from the most significant one. Clearing all but the first bits of
an address leaves the network that it is in, so two addresses are in one network exactly if they
agree on these bits. An IPv4 address may be written as such or inside of an IPv6 address.
-/

namespace Tollgate.Address

variable {width keep : Nat} {bits other : BitVec width} {address : Address}

/-- The words have the same first bits. -/
def Agree (keep : Nat) (bits other : BitVec width) : Prop :=
  ∀ place < keep, bits.getMsbD place = other.getMsbD place

/-- What is left of a word are its first bits, with zeros behind them. -/
theorem getMsbD_cleared (bits : BitVec width) (fits : keep ≤ width) (place : Nat) :
    (bits >>> (width - keep) <<< (width - keep)).getMsbD place =
      (decide (place < keep) && bits.getMsbD place) := by
  rw [BitVec.getMsbD_shiftLeft, BitVec.getMsbD_ushiftRight, Nat.add_sub_cancel]
  have behind : ¬ place + (width - keep) < width - keep := by omega
  have inside : place + (width - keep) < width ↔ place < keep := by omega
  simp [behind, inside]

theorem cleared_eq_of_agree (fits : keep ≤ width) (agree : Agree keep bits other) :
    bits >>> (width - keep) <<< (width - keep) = other >>> (width - keep) <<< (width - keep) := by
  apply BitVec.eq_of_getMsbD_eq
  intro place _
  rw [getMsbD_cleared bits fits, getMsbD_cleared other fits]
  by_cases inside : place < keep
  · rw [agree place inside]
  · simp [inside]

/-- Nothing is left of the words that have zeros in front. -/
theorem cleared_eq_zero_iff (fits : keep ≤ width) :
    bits >>> (width - keep) <<< (width - keep) = 0 ↔ Agree keep bits 0 := by
  constructor
  · intro cleared place inside
    have kept := getMsbD_cleared bits fits place
    rw [cleared, decide_eq_true inside, Bool.true_and] at kept
    exact kept.symm
  · intro agree
    rw [cleared_eq_of_agree fits agree]
    simp

/-! ## IPv4 addresses inside of IPv6 addresses -/

/-- The IPv6 address that stands for an IPv4 address. -/
def mapped (bits : BitVec 32) : BitVec 128 := (0xFFFF : BitVec 96) ++ bits

/-- An IPv4 address, as such or inside of an IPv6 address. -/
inductive IsV4 : Address → BitVec 32 → Prop where
  | itself (bits : BitVec 32) : IsV4 (.v4 bits) bits
  | inside (bits : BitVec 32) : IsV4 (.v6 (mapped bits)) bits

/-- An IPv6 address that stands for no IPv4 address. -/
inductive IsV6 : Address → BitVec 128 → Prop where
  | itself (bits : BitVec 128) (own : ∀ inner, bits ≠ mapped inner) : IsV6 (.v6 bits) bits

theorem toNat_mapped (bits : BitVec 32) : (mapped bits).toNat = 0xFFFF * 2 ^ 32 + bits.toNat := by
  rw [mapped, BitVec.toNat_append, ← Nat.shiftLeft_add_eq_or_of_lt bits.isLt, Nat.shiftLeft_eq]
  rfl

/-- The first 96 bits tell which IPv6 addresses stand for IPv4 addresses. -/
theorem ushiftRight_eq_iff {bits : BitVec 128} :
    bits >>> 32 = 0xFFFF ↔ bits = mapped (bits.truncate 32) := by
  have bits_lt := bits.isLt
  rw [← BitVec.toNat_inj, ← BitVec.toNat_inj, toNat_mapped, BitVec.toNat_ushiftRight,
    BitVec.truncate_eq_setWidth, BitVec.toNat_setWidth, Nat.shiftRight_eq_div_pow]
  change bits.toNat / 2 ^ 32 = 0xFFFF ↔ _
  omega

theorem IsV4.canonical_eq {bits : BitVec 32} (h : IsV4 address bits) :
    address.canonical = .v4 bits := by
  cases h with
  | itself => rfl
  | inside =>
      have inner : (mapped bits).truncate 32 = bits := BitVec.setWidth_append_eq_right
      rw [canonical, if_pos (ushiftRight_eq_iff.mpr (by rw [inner])), inner]

theorem IsV6.canonical_eq {bits : BitVec 128} (h : IsV6 address bits) :
    address.canonical = .v6 bits := by
  obtain ⟨_, own⟩ := h
  rw [canonical, if_neg fun first => own _ (ushiftRight_eq_iff.mp first)]

/-- Every address stands for an IPv4 address or for itself. -/
theorem isV4_or_isV6 (address : Address) :
    (∃ bits, address.IsV4 bits) ∨ ∃ bits, address.IsV6 bits := by
  cases address with
  | v4 bits => exact Or.inl ⟨bits, .itself bits⟩
  | v6 bits =>
      by_cases inside : ∃ inner, bits = mapped inner
      · obtain ⟨inner, rfl⟩ := inside
        exact Or.inl ⟨inner, .inside inner⟩
      · exact Or.inr ⟨bits, .itself bits (not_exists.mp inside)⟩

end Tollgate.Address
