import Embedder.Binary.Leb128
import Embedder.Proofs.Reader
import Mathlib.Algebra.Ring.Int.Defs
import Mathlib.Algebra.Ring.Nat

/-!
LEB128 numbers are read back. An unsigned number is read back at every width that it fits in, a
signed one at every width whose two's complement holds it: the width shrinks by seven with each
byte, and so does what is left of the number.
-/

namespace Embedder.Binary

open Reader (Reads)

/-! ### Bytes -/

theorem toNat_byte {n : Nat} (h : n < 256) : (UInt8.ofNat n).toNat = n := UInt8.toNat_ofNat_of_lt' h

theorem lt_128_iff (b : UInt8) : b < 128 ↔ b.toNat < 128 := UInt8.lt_iff_toNat_lt

theorem lt_64_iff (b : UInt8) : b < 64 ↔ b.toNat < 64 := UInt8.lt_iff_toNat_lt

/-! ### Widths -/

/-- Seven bits less hold a hundred and twenty-eighth. -/
theorem pow_width {width : Nat} (h : 7 ≤ width) : 2 ^ width = 128 * 2 ^ (width - 7) := by
  rw [show (128 : Nat) = 2 ^ 7 from rfl, ← Nat.pow_add, Nat.add_sub_cancel' h]

theorem lt_width {n width : Nat} (h : n < 2 ^ width) (hn : 128 ≤ n) : 7 < width := by
  refine Nat.lt_of_not_le fun hle => ?_
  have : 2 ^ width ≤ 2 ^ 7 := Nat.pow_le_pow_right (by decide) hle
  omega

/-! ### Unsigned numbers -/

theorem reads_unsigned {n width : Nat} (h : n < 2 ^ width) :
    Reads (readUnsigned width) (unsigned n) n := by
  induction n using unsigned.induct generalizing width with
  | case1 n hn =>
    intro rest
    rw [unsigned, if_pos hn]
    simp only [List.cons_append, List.nil_append, readUnsigned, lt_128_iff,
      toNat_byte (by omega : n < 256)]
    rw [if_pos hn, Nat.one_shiftLeft, if_pos h]
  | case2 n hn ih =>
    intro rest
    have hw := lt_width h (Nat.le_of_not_lt hn)
    have hq : n / 128 < 2 ^ (width - 7) := by
      have := pow_width (Nat.le_of_lt hw)
      omega
    rw [unsigned, if_neg hn]
    simp only [List.cons_append, readUnsigned, lt_128_iff,
      toNat_byte (by omega : n % 128 + 128 < 256)]
    rw [if_neg (by omega), if_pos hw, ih hq rest]
    have hr : n % 128 + 128 - 128 + 128 * (n / 128) = n := by omega
    exact congrArg (fun m => some (m, rest)) hr

/-- A number that does not fit is not read at all. -/
theorem lt_of_readUnsigned {n width m : Nat} {rest after : List UInt8}
    (h : readUnsigned width (unsigned n ++ rest) = some (m, after)) : n < 2 ^ width := by
  induction n using unsigned.induct generalizing width m after with
  | case1 n hn =>
    rw [unsigned, if_pos hn] at h
    simp only [List.cons_append, List.nil_append, readUnsigned, lt_128_iff,
      toNat_byte (by omega : n < 256), if_pos hn, Nat.one_shiftLeft] at h
    split at h
    · assumption
    · cases h
  | case2 n hn ih =>
    rw [unsigned, if_neg hn] at h
    simp only [List.cons_append, readUnsigned, lt_128_iff,
      toNat_byte (by omega : n % 128 + 128 < 256), if_neg (by omega : ¬ n % 128 + 128 < 128)] at h
    split at h
    · rename_i hw
      obtain ⟨⟨q, mid⟩, hq, -⟩ := Option.bind_eq_some_iff.1 h
      have := ih hq
      have := pow_width (Nat.le_of_lt hw)
      omega
    · cases h

/-- An unsigned number is not written as nothing. -/
theorem unsigned_ne_nil (n : Nat) : unsigned n ≠ [] := by
  rw [unsigned]
  split <;> simp

/-! ### Signed numbers -/

/-- A number that takes more than a byte has more than seven bits. -/
theorem lt_width_signed {i : Int} {width : Nat} (h : -2 ^ (width - 1) ≤ i ∧ i < 2 ^ (width - 1))
    (hi : ¬ (-64 ≤ i ∧ i < 64)) : 7 < width := by
  refine Nat.lt_of_not_le fun hle => hi ?_
  have : (2 : Int) ^ (width - 1) ≤ 2 ^ 6 := by
    exact_mod_cast Nat.pow_le_pow_right (by decide) (by omega : width - 1 ≤ 6)
  omega

/-- A signed number is read back at every width above zero whose two's complement holds it. -/
theorem reads_signed {i : Int} {width : Nat} (hw : 0 < width)
    (h : -2 ^ (width - 1) ≤ i ∧ i < 2 ^ (width - 1)) : Reads (readSigned width) (signed i) i := by
  induction i using signed.induct generalizing width with
  | case1 i hi =>
    intro rest
    rw [signed, if_pos hi]
    have hp : ((2 ^ (width - 1) : Nat) : Int) = 2 ^ (width - 1) := by simp
    simp only [List.cons_append, List.nil_append, readSigned, lt_64_iff, lt_128_iff,
      Nat.one_shiftLeft, toNat_byte (by omega : (i % 128).toNat < 256)]
    -- bit 6 of the only byte is the sign
    by_cases hs : 0 ≤ i
    · rw [if_pos (by omega), if_pos (by omega)]
      have hr : ((i % 128).toNat : Int) = i := by omega
      exact congrArg (fun m => some (m, rest)) hr
    · rw [if_neg (by omega), if_pos (by omega), if_pos (by omega)]
      have hr : ((i % 128).toNat : Int) - 128 = i := by omega
      exact congrArg (fun m => some (m, rest)) hr
  | case2 i hi ih =>
    intro rest
    have hw' := lt_width_signed h hi
    have hq : -2 ^ (width - 7 - 1) ≤ i / 128 ∧ i / 128 < 2 ^ (width - 7 - 1) := by
      have hp : (2 : Int) ^ (width - 1) = 128 * 2 ^ (width - 7 - 1) := by
        rw [show (128 : Int) = 2 ^ 7 from rfl, ← Int.pow_add]
        congr 1
        omega
      omega
    rw [signed, if_neg hi]
    simp only [List.cons_append, readSigned, lt_64_iff, lt_128_iff,
      toNat_byte (by omega : (i % 128).toNat + 128 < 256)]
    rw [if_neg (by omega), if_neg (by omega), if_pos hw', ih (by omega) hq rest]
    have hr : (((i % 128).toNat + 128 : Nat) : Int) - 128 + 128 * (i / 128) = i := by omega
    exact congrArg (fun m => some (m, rest)) hr

end Embedder.Binary
