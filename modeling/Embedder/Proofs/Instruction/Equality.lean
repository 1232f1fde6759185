import Embedder.Proofs.Binary.Instruction
import Embedder.Proofs.Text.Constant

/-!
Equality of instructions against equality of their bytes. No two instructions have the same bytes,
and equality tells the same ones apart, with one exception: float constants compare as numbers.
There a NaN is equal to nothing, itself included, and the zeros of a type are equal whatever their
signs.
-/

namespace Embedder

namespace Ieee.Format

variable (f : Format)

/-- The exponent of a pattern, which stands over the fraction and under the sign. -/
def exponent (bits : Nat) : Nat := bits / f.leadingBit % 2 ^ f.exponentBits

/-- The pattern of a NaN: an exponent of all ones over a fraction that is not empty. -/
def IsNan (bits : Nat) : Prop := f.exponent bits = 2 ^ f.exponentBits - 1 ∧ f.payload bits ≠ 0

/-- The pattern of a zero: nothing but a sign. -/
def IsZero (bits : Nat) : Prop := f.exponent bits = 0 ∧ f.payload bits = 0

instance (bits : Nat) : Decidable (f.IsNan bits) := inferInstanceAs (Decidable (_ ∧ _))

instance (bits : Nat) : Decidable (f.IsZero bits) := inferInstanceAs (Decidable (_ ∧ _))

variable {f} {a b : Nat}

theorem magnitude_eq_fields (bits : Nat) :
    f.magnitude bits = f.leadingBit * f.exponent bits + f.payload bits := by
  have weight : f.signWeight = f.leadingBit * 2 ^ f.exponentBits := by
    rw [signWeight, Nat.one_shiftLeft, leadingBit_eq, Nat.pow_add]
  rw [magnitude, weight, Nat.mod_mul, Nat.add_comm, exponent, payload]

theorem isNan_eq_true_iff : f.isNan a = true ↔ f.IsNan a := by
  have infinity : f.infinity = f.leadingBit * (2 ^ f.exponentBits - 1) := by
    rw [infinity, Nat.shiftLeft_eq, Nat.one_shiftLeft, leadingBit_eq, Nat.mul_comm]
  have fraction : f.payload a < f.leadingBit := Nat.mod_lt a f.leadingBit_pos
  have exponent : f.exponent a < 2 ^ f.exponentBits := Nat.mod_lt _ (Nat.two_pow_pos _)
  rw [isNan, decide_eq_true_iff, infinity, magnitude_eq_fields, IsNan]
  constructor
  · intro above
    have ones : f.exponent a = 2 ^ f.exponentBits - 1 := by
      -- One exponent less would leave no fraction that reaches infinity.
      by_contra less
      have next : f.exponent a + 1 ≤ 2 ^ f.exponentBits - 1 := by omega
      have le := Nat.mul_le_mul_left f.leadingBit next
      rw [Nat.mul_succ] at le
      omega
    rw [ones] at above
    exact ⟨ones, by omega⟩
  · rintro ⟨ones, nonempty⟩
    rw [ones]
    omega

theorem magnitude_eq_zero_iff : f.magnitude a = 0 ↔ f.IsZero a := by
  have pos := f.leadingBit_pos
  rw [magnitude_eq_fields, IsZero, Nat.add_eq_zero_iff, Nat.mul_eq_zero]
  exact and_congr_left' (or_iff_right (Nat.ne_of_gt pos))

theorem IsZero.not_isNan (h : f.IsZero a) : ¬ f.IsNan a := fun nan => nan.2 h.2

theorem sameNumber_eq_true_iff :
    f.sameNumber a b = true ↔ (a = b ∧ ¬ f.IsNan a) ∨ (f.IsZero a ∧ f.IsZero b) := by
  have unfolded : f.sameNumber a b = true ↔
      (¬ f.IsNan a ∧ ¬ f.IsNan b) ∧ (a = b ∨ (f.IsZero a ∧ f.IsZero b)) := by
    simp [sameNumber, ← isNan_eq_true_iff, ← magnitude_eq_zero_iff]
  rw [unfolded]
  constructor
  · rintro ⟨⟨number, -⟩, same | zeros⟩
    · exact .inl ⟨same, number⟩
    · exact .inr zeros
  · rintro (⟨rfl, number⟩ | ⟨zero, zero'⟩)
    · exact ⟨⟨number, number⟩, .inl rfl⟩
    · exact ⟨⟨zero.not_isNan, zero'.not_isNan⟩, .inr ⟨zero, zero'⟩⟩

end Ieee.Format

/-- Immediates other than those of float constants compare as they are. -/
theorem Shape.sameImmediates_eq_decide {s : Shape} (h : ∀ t, s = .const t → t.isFloat = false)
    (x y : s.Immediates) : s.sameImmediates x y = decide (x = y) := by
  cases s with
  | const t =>
    rw [sameImmediates, Value.sameNumber, h t rfl]
    rfl
  | _ => rfl

theorem Opcode.floatConst_of_mem_all : ∀ op ∈ all,
    (match op.shape with
      | .const .f32 => decide (op = f32Const)
      | .const .f64 => decide (op = f64Const)
      | _ => true) = true := by
  decide +kernel

namespace Instruction

/-- The instruction is a float constant of that type, with those bits. -/
inductive IsFloat : Instruction → (t : ValueType) → BitVec t.width → Prop
  | f32 (bits : BitVec 32) : IsFloat ⟨.f32Const, bits⟩ .f32 bits
  | f64 (bits : BitVec 64) : IsFloat ⟨.f64Const, bits⟩ .f64 bits

/-- The instruction is a constant whose value is a NaN. -/
def IsNan (i : Instruction) : Prop := ∃ t bits, i.IsFloat t bits ∧ t.format.IsNan bits.toNat

/-- The instruction is a constant of that type whose value is a zero of either sign. -/
def IsZero (i : Instruction) (t : ValueType) : Prop :=
  ∃ bits, i.IsFloat t bits ∧ t.format.IsZero bits.toNat

variable {a b c : Instruction} {t t' : ValueType}

/-! ### Float constants -/

namespace IsFloat

theorem type_eq {x : BitVec t.width} {y : BitVec t'.width} (ha : a.IsFloat t x)
    (hb : b.IsFloat t' y) (h : a.opcode = b.opcode) : t = t' := by
  cases ha <;> cases hb <;> first | rfl | cases h

theorem inj_iff {x y : BitVec t.width} (ha : a.IsFloat t x) (hb : b.IsFloat t y) :
    a = b ↔ x = y := by
  constructor
  · rintro rfl
    cases ha <;> cases hb <;> rfl
  · rintro rfl
    cases ha <;> cases hb <;> rfl

theorem isNan_iff {x : BitVec t.width} (ha : a.IsFloat t x) : a.IsNan ↔ t.format.IsNan x.toNat := by
  constructor
  · rintro ⟨t', y, hb, nan⟩
    obtain rfl := ha.type_eq hb rfl
    rwa [(ha.inj_iff hb).1 rfl]
  · exact fun nan => ⟨t, x, ha, nan⟩

/-- What has the opcode of a float constant is a float constant of the same type. -/
theorem exists_isFloat {x : BitVec t.width} (ha : a.IsFloat t x) (h : a.opcode = b.opcode) :
    ∃ y, b.IsFloat t y := by
  obtain ⟨op, y⟩ := b
  cases ha with
  | f32 => cases h; exact ⟨y, .f32 y⟩
  | f64 => cases h; exact ⟨y, .f64 y⟩

theorem equals_eq {x y : BitVec t.width} (ha : a.IsFloat t x) (hb : b.IsFloat t y) :
    a.equals b = t.format.sameNumber x.toNat y.toNat := by
  cases ha <;> cases hb <;> rfl

end IsFloat

/-- A zero is of one type only. -/
theorem IsZero.type_eq (h : a.IsZero t) (h' : a.IsZero t') : t = t' := by
  obtain ⟨x, hx, -⟩ := h
  obtain ⟨y, hy, -⟩ := h'
  exact hx.type_eq hy rfl

theorem IsZero.not_isNan (h : a.IsZero t) : ¬ a.IsNan := by
  obtain ⟨x, hx, zero⟩ := h
  rw [hx.isNan_iff]
  exact zero.not_isNan

theorem isZero_iff_f32_or_f64 :
    (∃ t, a.IsZero t ∧ b.IsZero t) ↔
      (a.IsZero .f32 ∧ b.IsZero .f32) ∨ (a.IsZero .f64 ∧ b.IsZero .f64) := by
  constructor
  · rintro ⟨t, ha, hb⟩
    have float := ha
    obtain ⟨x, h, -⟩ := float
    cases h with
    | f32 => exact .inl ⟨ha, hb⟩
    | f64 => exact .inr ⟨ha, hb⟩
  · rintro (zeros | zeros)
    · exact ⟨.f32, zeros⟩
    · exact ⟨.f64, zeros⟩

/-! ### Equality -/

theorem opcode_eq_of_equals (h : a.equals b = true) : a.opcode = b.opcode := by
  rw [equals] at h
  split at h
  · assumption
  · cases h

/-- No other opcode has a float constant for its immediates. -/
theorem exists_isFloat_of_shape {i : Instruction} (h : i.opcode.shape = .const t)
    (float : t.isFloat = true) : ∃ x, i.IsFloat t x := by
  obtain ⟨op, x⟩ := i
  have table := Opcode.floatConst_of_mem_all op op.mem_all
  dsimp only at h
  rw [h] at table
  cases t with
  | i32 | i64 => cases float
  | f32 => obtain rfl := of_decide_eq_true table; exact ⟨x, .f32 x⟩
  | f64 => obtain rfl := of_decide_eq_true table; exact ⟨x, .f64 x⟩

/-- Every instruction but a float constant is equal to itself alone. -/
theorem equals_eq_decide (h : ∀ t x, ¬ a.IsFloat t x) (b : Instruction) :
    a.equals b = decide (a = b) := by
  obtain ⟨op, x⟩ := a
  obtain ⟨op', y⟩ := b
  by_cases same : op = op'
  · subst same
    have e : equals ⟨op, x⟩ ⟨op, y⟩ = op.shape.sameImmediates x y := by simp [equals]
    rw [e, Shape.sameImmediates_eq_decide]
    · simp
    · intro t shape
      by_contra float
      have isFloat := Bool.eq_true_of_not_eq_false float
      obtain ⟨z, hz⟩ := exists_isFloat_of_shape (i := ⟨op, x⟩) shape isFloat
      exact h t z hz
  · simp [equals, same]

theorem equals_eq_true_iff :
    a.equals b = true ↔ (a = b ∧ ¬ a.IsNan) ∨ ∃ t, a.IsZero t ∧ b.IsZero t := by
  constructor
  · intro h
    by_cases float : ∃ t x, a.IsFloat t x
    · obtain ⟨t, x, ha⟩ := float
      obtain ⟨y, hb⟩ := ha.exists_isFloat (opcode_eq_of_equals h)
      rw [ha.equals_eq hb, Ieee.Format.sameNumber_eq_true_iff, BitVec.toNat_inj] at h
      rcases h with ⟨same, number⟩ | ⟨zero, zero'⟩
      · exact .inl ⟨(ha.inj_iff hb).2 same, fun nan => number (ha.isNan_iff.1 nan)⟩
      · exact .inr ⟨t, ⟨x, ha, zero⟩, ⟨y, hb, zero'⟩⟩
    · rw [equals_eq_decide (fun t x ha => float ⟨t, x, ha⟩), decide_eq_true_iff] at h
      exact .inl ⟨h, fun ⟨t, x, ha, _⟩ => float ⟨t, x, ha⟩⟩
  · rintro (⟨rfl, number⟩ | ⟨t, ⟨x, ha, zero⟩, ⟨y, hb, zero'⟩⟩)
    · by_cases float : ∃ t x, a.IsFloat t x
      · obtain ⟨t, x, ha⟩ := float
        rw [ha.equals_eq ha, Ieee.Format.sameNumber_eq_true_iff, ← ha.isNan_iff]
        exact .inl ⟨rfl, number⟩
      · rw [equals_eq_decide (fun t x ha => float ⟨t, x, ha⟩), decide_eq_true_iff]
    · rw [ha.equals_eq hb, Ieee.Format.sameNumber_eq_true_iff]
      exact .inr ⟨zero, zero'⟩

theorem equals_self_iff : a.equals a = true ↔ ¬ a.IsNan := by
  rw [equals_eq_true_iff]
  constructor
  · rintro (⟨-, number⟩ | ⟨t, zero, -⟩)
    · exact number
    · exact zero.not_isNan
  · exact fun number => .inl ⟨rfl, number⟩

theorem equals_symm (h : a.equals b = true) : b.equals a = true := by
  rw [equals_eq_true_iff] at h ⊢
  rcases h with ⟨rfl, number⟩ | ⟨t, ha, hb⟩
  · exact .inl ⟨rfl, number⟩
  · exact .inr ⟨t, hb, ha⟩

/-- The instruction in the middle is of one type, so the zeros on both sides of it are of that
type. -/
theorem equals_trans (h : a.equals b = true) (h' : b.equals c = true) : a.equals c = true := by
  rw [equals_eq_true_iff] at h h' ⊢
  rcases h with ⟨rfl, -⟩ | ⟨t, ha, hb⟩
  · exact h'
  · rcases h' with ⟨rfl, -⟩ | ⟨t', hb', hc⟩
    · exact .inr ⟨t, ha, hb⟩
    · obtain rfl := hb.type_eq hb'
      exact .inr ⟨t, ha, hc⟩

/-! ### Equality of bytes -/

theorem bytes_inj : a.bytes = b.bytes ↔ a = b := by
  constructor
  · intro h
    have same : [a].flatMap bytes = [b].flatMap bytes := by
      rw [List.flatMap_singleton, List.flatMap_singleton, h]
    exact List.singleton_inj.1 (Binary.flatMap_bytes_injective same)
  · exact congrArg bytes

/-- Where the two equalities part there are two float constants of one type. -/
theorem isFloat_of_equals_ne_bytes (h : ¬ (a.equals b = true ↔ a.bytes = b.bytes)) :
    ∃ t, (∃ x, a.IsFloat t x) ∧ ∃ y, b.IsFloat t y := by
  rw [bytes_inj, equals_eq_true_iff] at h
  by_cases zeros : ∃ t, a.IsZero t ∧ b.IsZero t
  · obtain ⟨t, ⟨x, ha, -⟩, ⟨y, hb, -⟩⟩ := zeros
    exact ⟨t, ⟨x, ha⟩, ⟨y, hb⟩⟩
  · rw [or_iff_left zeros, and_iff_left_iff_imp, Classical.not_imp, not_not] at h
    obtain ⟨rfl, t, x, ha, -⟩ := h
    exact ⟨t, ⟨x, ha⟩, ⟨x, ha⟩⟩

/-- Instructions are equal just when their bytes are the same and neither is a NaN, or when both are
zeros of one type. So equal instructions have one opcode, equality is symmetric and transitive,
every instruction but a NaN is equal to itself, and only of two float constants does equality say
anything but what their bytes say. -/
theorem equals_against_bytes (a b : Instruction) :
    (a.equals b = true ↔
      (a.bytes = b.bytes ∧ ¬ a.IsNan ∧ ¬ b.IsNan) ∨
        (a.IsZero .f32 ∧ b.IsZero .f32) ∨ (a.IsZero .f64 ∧ b.IsZero .f64)) ∧
    (a.equals b = true → a.opcode = b.opcode) ∧
    (a.equals b = true → b.equals a = true) ∧
    (∀ c, a.equals b = true → b.equals c = true → a.equals c = true) ∧
    (a.equals a = true ↔ ¬ a.IsNan) ∧
    (¬ (a.equals b = true ↔ a.bytes = b.bytes) →
      ∃ t, (∃ x, a.IsFloat t x) ∧ ∃ y, b.IsFloat t y) := by
  refine ⟨?_, opcode_eq_of_equals, equals_symm, fun c => equals_trans, equals_self_iff,
    isFloat_of_equals_ne_bytes⟩
  rw [equals_eq_true_iff, bytes_inj, isZero_iff_f32_or_f64]
  refine or_congr_left ⟨?_, ?_⟩
  · rintro ⟨rfl, number⟩
    exact ⟨rfl, number, number⟩
  · rintro ⟨rfl, number, -⟩
    exact ⟨rfl, number⟩

/-- Zeros of both signs are equal under different bytes, and a NaN differs from itself. -/
theorem equals_against_bytes_zeros :
    let zero : Instruction := ⟨.f64Const, (0 : BitVec 64)⟩
    let negative : Instruction := ⟨.f64Const, (0x8000000000000000 : BitVec 64)⟩
    let nan : Instruction := ⟨.f32Const, (0x7FC00000 : BitVec 32)⟩
    zero.equals negative = true ∧ zero.bytes ≠ negative.bytes ∧ ¬ nan.equals nan = true := by
  intro zero negative nan
  have hz : zero.IsZero .f64 := ⟨_, .f64 _, by decide⟩
  have hn : negative.IsZero .f64 := ⟨_, .f64 _, by decide⟩
  have hnan : nan.IsNan := ⟨.f32, _, .f32 _, by decide⟩
  obtain ⟨equal, -⟩ := equals_against_bytes zero negative
  obtain ⟨-, -, -, -, self, -⟩ := equals_against_bytes nan nan
  have bytes : zero.bytes ≠ negative.bytes := by
    rw [ne_eq, bytes_inj]
    decide
  exact ⟨equal.2 (.inr (.inr ⟨hz, hn⟩)), bytes, fun same => self.1 same hnan⟩

end Instruction

end Embedder
