import Embedder.Ieee.Format
import Mathlib.Algebra.Ring.Nat
import Mathlib.Order.Monotone.Basic

/-!
Patterns without sign stand in the order of their numbers. A number is so many spacings, where the
spacing doubles with every exponent, and the next pattern is one spacing on, over the end of an
exponent too. The last pattern at or below a number is therefore the one that `floor` computes.
-/

namespace Embedder.Ieee.Format

variable (f : Format)

theorem leadingBit_eq : f.leadingBit = 2 ^ f.fractionBits := Nat.one_shiftLeft f.fractionBits

theorem leadingBit_pos : 0 < f.leadingBit := by
  rw [leadingBit_eq]
  exact Nat.two_pow_pos f.fractionBits

/-- Above infinity there is one pattern for each fraction. -/
theorem signWeight_eq : f.signWeight = f.infinity + f.leadingBit := by
  have h : 0 < 2 ^ f.exponentBits := Nat.two_pow_pos f.exponentBits
  rw [signWeight, infinity, leadingBit_eq, Nat.one_shiftLeft, Nat.one_shiftLeft, Nat.shiftLeft_eq,
    ← Nat.succ_mul, Nat.succ_eq_add_one, Nat.sub_add_cancel h, Nat.add_comm, Nat.pow_add]

theorem signWeight_pos : 0 < f.signWeight := by
  rw [signWeight_eq]
  exact Nat.add_pos_right _ f.leadingBit_pos

/-! ### Units -/

theorem units_of_lt {p : Nat} (h : p < f.leadingBit) : f.units p = p := by
  have exponent : p >>> f.fractionBits = 0 := by
    rw [Nat.shiftRight_eq_div_pow, ← leadingBit_eq]
    exact Nat.div_eq_of_lt h
  rw [units, exponent, if_pos rfl, Nat.mod_eq_of_lt h]

/-- The number of a normal pattern, as spacings of `2 ^ s` units. -/
theorem units_normal (s : Nat) {fraction : Nat} (h : fraction < f.leadingBit) :
    f.units (s * f.leadingBit + (f.leadingBit + fraction)) = (f.leadingBit + fraction) * 2 ^ s := by
  have e : s * f.leadingBit + (f.leadingBit + fraction) = fraction + f.leadingBit * (s + 1) := by
    rw [Nat.mul_comm s, Nat.mul_succ]
    omega
  have exponent : (fraction + f.leadingBit * (s + 1)) >>> f.fractionBits = s + 1 := by
    rw [Nat.shiftRight_eq_div_pow, ← leadingBit_eq, Nat.add_mul_div_left _ _ f.leadingBit_pos,
      Nat.div_eq_of_lt h, Nat.zero_add]
  rw [e, units, exponent, Nat.add_mul_mod_self_left, Nat.mod_eq_of_lt h,
    if_neg (Nat.succ_ne_zero s), Nat.add_sub_cancel, Nat.shiftLeft_eq]

/-- The same up to the first number of the next exponent. -/
theorem units_spaced (s : Nat) {m : Nat} (h : f.leadingBit ≤ m) (h' : m ≤ 2 * f.leadingBit) :
    f.units (s * f.leadingBit + m) = m * 2 ^ s := by
  obtain ⟨fraction, rfl⟩ := Nat.exists_eq_add_of_le h
  rcases Nat.lt_or_eq_of_le h' with lt | eq
  · exact f.units_normal s (by omega)
  · have e : fraction = f.leadingBit := by omega
    have next := f.units_normal (s + 1) f.leadingBit_pos
    rw [Nat.succ_mul, Nat.add_assoc, Nat.add_zero] at next
    rw [e, next, Nat.pow_succ, ← Nat.two_mul, Nat.mul_comm 2, Nat.mul_assoc, Nat.mul_comm 2]

/-- The spacing of the first two exponents is one unit. -/
theorem units_of_le {p : Nat} (h : p ≤ 2 * f.leadingBit) : f.units p = p := by
  rcases Nat.lt_or_ge p f.leadingBit with lt | ge
  · exact f.units_of_lt lt
  · have e := f.units_spaced 0 ge h
    rwa [Nat.zero_mul, Nat.zero_add, Nat.pow_zero, Nat.mul_one] at e

theorem units_lt_succ (p : Nat) : f.units p < f.units (p + 1) := by
  rcases Nat.lt_or_ge p f.leadingBit with lt | ge
  · rw [f.units_of_lt lt, f.units_of_le (by omega)]
    exact Nat.lt_succ_self p
  · obtain ⟨r, rfl⟩ := Nat.exists_eq_add_of_le ge
    have hr := Nat.mod_lt r f.leadingBit_pos
    have e : f.leadingBit + r =
        r / f.leadingBit * f.leadingBit + (f.leadingBit + r % f.leadingBit) := by
      have := Nat.div_add_mod' r f.leadingBit
      omega
    rw [e, Nat.add_assoc, f.units_spaced _ (by omega) (by omega),
      f.units_spaced _ (by omega) (by omega)]
    exact Nat.mul_lt_mul_of_pos_right (Nat.lt_succ_self _) (Nat.two_pow_pos _)

theorem units_strictMono : StrictMono f.units := strictMono_nat_of_lt_succ f.units_lt_succ

/-! ### Floor -/

/-- At the floor and one above it, the number is what is left of the units at that spacing. -/
theorem units_floor_add (u : Nat) {k : Nat} (hk : k ≤ 1) :
    f.units (f.floor u + k) =
      (u / 2 ^ (u.log2 - f.fractionBits) + k) * 2 ^ (u.log2 - f.fractionBits) := by
  have lt : u < 2 ^ (u.log2 + 1) := Nat.lt_log2_self
  rw [floor, Nat.shiftLeft_eq, Nat.shiftRight_eq_div_pow, ← leadingBit_eq, Nat.add_assoc]
  rcases Nat.lt_or_ge f.fractionBits u.log2 with large | small
  · obtain ⟨s, hs⟩ := Nat.exists_eq_add_of_le (Nat.le_of_lt large)
    have ne : u ≠ 0 := by
      rintro rfl
      exact Nat.not_lt_zero _ large
    have le : 2 ^ u.log2 ≤ u := Nat.log2_self_le ne
    have pow : f.leadingBit * 2 ^ s = 2 ^ u.log2 := by rw [leadingBit_eq, ← Nat.pow_add, ← hs]
    have pow_succ : 2 * f.leadingBit * 2 ^ s = 2 ^ (u.log2 + 1) := by
      rw [Nat.mul_assoc, pow, Nat.pow_succ, Nat.mul_comm]
    have ge : f.leadingBit ≤ u / 2 ^ s := by
      rw [Nat.le_div_iff_mul_le (Nat.two_pow_pos s), pow]
      exact le
    have upper : u / 2 ^ s < 2 * f.leadingBit := by
      rw [Nat.div_lt_iff_lt_mul (Nat.two_pow_pos s), pow_succ]
      exact lt
    rw [hs, Nat.add_sub_cancel_left]
    exact f.units_spaced s (by omega) (by omega)
  · have le : 2 ^ (u.log2 + 1) ≤ 2 * f.leadingBit := by
      rw [leadingBit_eq, Nat.pow_succ, Nat.mul_comm]
      exact Nat.mul_le_mul_left 2 (Nat.pow_le_pow_right (by decide) small)
    rw [Nat.sub_eq_zero_of_le small, Nat.zero_mul, Nat.zero_add, Nat.pow_zero, Nat.div_one,
      Nat.mul_one]
    exact f.units_of_le (by omega)

theorem units_floor_le (u : Nat) : f.units (f.floor u) ≤ u := by
  have e := f.units_floor_add u (Nat.zero_le 1)
  rw [Nat.add_zero, Nat.add_zero] at e
  rw [e]
  exact Nat.div_mul_le_self u _

theorem lt_units_floor_succ (u : Nat) : u < f.units (f.floor u + 1) := by
  rw [f.units_floor_add u (Nat.le_refl 1), Nat.mul_comm]
  exact Nat.lt_mul_div_succ u (Nat.two_pow_pos _)

/-- The patterns up to the floor are those whose numbers are at most so many units. -/
theorem le_floor_iff {p u : Nat} : p ≤ f.floor u ↔ f.units p ≤ u := by
  constructor
  · intro h
    exact Nat.le_trans (f.units_strictMono.monotone h) (f.units_floor_le u)
  · intro h
    have lt := Nat.lt_of_le_of_lt h (f.lt_units_floor_succ u)
    exact Nat.le_of_lt_succ (f.units_strictMono.lt_iff_lt.1 lt)

end Embedder.Ieee.Format
