import Embedder.Proofs.Ieee.Nearest
import Embedder.Proofs.Text.Instruction

/-!
The text of a float constant denotes its bits. The mnemonic is followed by a literal, and of all the
patterns of the format that literal denotes the one that it was written for. A NaN is told by its
payload, which no literal of a NaN writes as zero or wider than the fraction.
-/

namespace Embedder

namespace Ieee.Format

variable (f : Format)

/-! ### Payloads -/

/-- The fraction of a pattern. -/
def payload (bits : Nat) : Nat := bits % f.leadingBit

theorem leadingBit_dvd_infinity : f.leadingBit ∣ f.infinity := by
  rw [infinity, Nat.shiftLeft_eq, leadingBit_eq]
  exact Nat.dvd_mul_left _ _

/-- A NaN is infinity with something in the fraction. -/
theorem magnitude_of_isNan {bits : Nat} (h : f.isNan bits = true) :
    f.magnitude bits = f.infinity + f.payload bits ∧ 0 < f.payload bits := by
  have nan : f.infinity < f.magnitude bits := of_decide_eq_true h
  have lt : f.magnitude bits < f.infinity + f.leadingBit := by
    rw [← signWeight_eq]
    exact Nat.mod_lt bits f.signWeight_pos
  have dvd : f.leadingBit ∣ f.signWeight := by
    rw [signWeight_eq]
    exact Nat.dvd_add f.leadingBit_dvd_infinity (Nat.dvd_refl _)
  have payload : f.payload bits = f.magnitude bits - f.infinity := by
    obtain ⟨k, hk⟩ := f.leadingBit_dvd_infinity
    obtain ⟨r, hr⟩ := Nat.exists_eq_add_of_le nan.le
    have same : f.payload bits = f.magnitude bits % f.leadingBit :=
      (Nat.mod_mod_of_dvd bits dvd).symm
    rw [same, hr, Nat.add_sub_cancel_left, hk, Nat.mul_add_mod, Nat.mod_eq_of_lt (by omega)]
  omega

/-! ### Literals -/

/-- The literal is one of the pattern, and of no other. -/
structure IsLiteral (f : Format) (bits : Nat) (literal : List Char) : Prop where
  denotes : ∀ p, f.Denotes literal p ↔ p = bits
  /-- The payload of a NaN is at least one and at most the largest fraction, and is written in full
  unless the NaN is canonical. -/
  nan : f.isNan bits = true → 1 ≤ f.payload bits ∧ f.payload bits ≤ f.leadingBit - 1 ∧
    literal = (if f.isNegative bits then ['-'] else []) ++
      if f.payload bits = f.canonicalPayload then "nan".toList
      else "nan:0x".toList ++ Nat.toDigits 16 (f.payload bits)

theorem isLiteral_literal {bits : Nat} (h : bits < 2 * f.signWeight) :
    f.IsLiteral bits (f.literal bits) where
  denotes p := by
    rw [← ofLiteral?_eq_some_iff, f.ofLiteral?_literal h, Option.some.injEq, eq_comm]
  nan hn := by
    obtain ⟨magnitude, pos⟩ := f.magnitude_of_isNan hn
    have lt : f.payload bits < f.leadingBit := Nat.mod_lt bits f.leadingBit_pos
    refine ⟨pos, by omega, ?_⟩
    rw [literal, magnitude, magnitudeChars, List.append_cancel_left_eq, if_neg (by omega),
      if_neg (by omega), Nat.add_sub_cancel_left]
    simp only [Nat.add_left_cancel_iff]

end Ieee.Format

namespace Text

theorem ofList_write_pair (a b : String) :
    String.ofList (Token.write [.word a, .word b]) = a ++ " " ++ b := by
  apply String.toList_inj.1
  simp [Token.write, Token.chars, Token.gap]

/-- Every pattern of 32 bits and every pattern of 64 bits comes back from the text of its constant:
after the mnemonic stands a literal that denotes these bits and no others, the signs of zeros and
NaNs and the payloads of NaNs among them. -/
theorem float_constants_denote_their_bits :
    (∀ bits : BitVec 32, ∃ literal : List Char,
      (⟨.f32Const, bits⟩ : Instruction).wat = "f32.const " ++ String.ofList literal ∧
        Ieee.binary32.IsLiteral bits.toNat literal) ∧
    ∀ bits : BitVec 64, ∃ literal : List Char,
      (⟨.f64Const, bits⟩ : Instruction).wat = "f64.const " ++ String.ofList literal ∧
        Ieee.binary64.IsLiteral bits.toNat literal := by
  constructor
  · intro bits
    exact ⟨_, ofList_write_pair "f32.const" _, Ieee.binary32.isLiteral_literal bits.isLt⟩
  · intro bits
    exact ⟨_, ofList_write_pair "f64.const" _, Ieee.binary64.isLiteral_literal bits.isLt⟩

example : (⟨.f32Const, (0x80000000 : BitVec 32)⟩ : Instruction).wat = "f32.const -0.0" ∧
    (⟨.f64Const, (0xFFF0000000000010 : BitVec 64)⟩ : Instruction).wat = "f64.const -nan:0x10" := by
  decide +kernel

end Text

end Embedder
