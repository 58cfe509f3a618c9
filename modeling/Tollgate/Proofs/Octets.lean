import Tollgate.Octets
import Mathlib.Data.List.Induction
import Mathlib.Tactic.Ring

/-!
# Numbers in octets

A number that is written in some octets and read back loses what does not fit into them, and nothing
else. Octets that are read are the ones that their number is written in.
-/

namespace Tollgate.Octets

@[simp] theorem toNat_nil : toNat [] = 0 := rfl

@[simp] theorem toNat_append_singleton (bytes : Octets) (byte : UInt8) :
    toNat (bytes ++ [byte]) = toNat bytes * 256 + byte.toNat := by
  simp [toNat]

/-- The most significant octet comes first. -/
theorem ofNat_succ (width value : Nat) :
    ofNat (width + 1) value = (value / 256 ^ width).toUInt8 :: ofNat width value := by
  induction width generalizing value with
  | zero => simp [ofNat]
  | succ width ih =>
      rw [ofNat, ih, ofNat, List.cons_append, Nat.div_div_eq_div_mul, ← pow_succ']

theorem toNat_ofNat (width value : Nat) : toNat (ofNat width value) = value % 256 ^ width := by
  induction width generalizing value with
  | zero => simp [ofNat, Nat.mod_one]
  | succ width ih =>
      rw [ofNat, toNat_append_singleton, ih, pow_succ', Nat.mod_mul]
      simp
      omega

theorem ofNat_toNat (bytes : Octets) : ofNat bytes.length (toNat bytes) = bytes := by
  induction bytes using List.reverseRecOn with
  | nil => rfl
  | append_singleton bytes byte ih =>
      have byte_lt := byte.toNat_lt
      have front : (toNat bytes * 256 + byte.toNat) / 256 = toNat bytes := by omega
      have last : (toNat bytes * 256 + byte.toNat).toUInt8 = byte := by
        apply UInt8.toNat_inj.mp
        simp
      rw [List.length_append, List.length_singleton, ofNat, toNat_append_singleton, front, last, ih]

theorem toNat_lt (bytes : Octets) : toNat bytes < 256 ^ bytes.length := by
  rw [← ofNat_toNat bytes, toNat_ofNat, ofNat_toNat]
  exact Nat.mod_lt _ (Nat.pow_pos (by decide))

end Tollgate.Octets
