import Embedder.Ieee.Literal
import Embedder.Proofs.Ieee.Decimal
import Embedder.Proofs.Ieee.Format

/-!
A float constant is read back bit for bit. For a finite number the written decimal lies between the
midpoints to the neighbours, and every such decimal rounds to the number; infinities and NaNs have
words of their own. Nothing here depends on the widths of the format.
-/

namespace Embedder.Ieee.Format

variable (f : Format)

/-! ### Rounding -/

/-- Where a decimal lies among the numbers of the format depends only on its value. -/
theorem cast_twice_num (d : Decimal) :
    ((2 * d.num <<< f.scale : ℕ) : ℚ) = 2 * d.value * 2 ^ f.scale * d.den := by
  have den : (d.den : ℚ) ≠ 0 := by exact_mod_cast d.den_pos.ne'
  rw [Decimal.value_eq_div, Nat.shiftLeft_eq]
  push_cast
  field_simp

theorem mul_den_lt_iff (a : Nat) (d : Decimal) :
    a * d.den < 2 * d.num <<< f.scale ↔ (a : ℚ) < 2 * d.value * 2 ^ f.scale := by
  have den : (0 : ℚ) < d.den := by exact_mod_cast d.den_pos
  rw [← Nat.cast_lt (α := ℚ), cast_twice_num, Nat.cast_mul]
  exact mul_lt_mul_iff_left₀ den

theorem lt_mul_den_iff (a : Nat) (d : Decimal) :
    2 * d.num <<< f.scale < a * d.den ↔ 2 * d.value * 2 ^ f.scale < (a : ℚ) := by
  have den : (0 : ℚ) < d.den := by exact_mod_cast d.den_pos
  rw [← Nat.cast_lt (α := ℚ), cast_twice_num, Nat.cast_mul]
  exact mul_lt_mul_iff_left₀ den

theorem readsBack_congr (p : Nat) {d d' : Decimal} (h : d.value = d'.value) :
    f.readsBack p d = f.readsBack p d' := by
  simp only [readsBack, ← Nat.not_lt, mul_den_lt_iff, lt_mul_den_iff, h]

/-- Between the midpoints, and at neither of them if the pattern is odd. -/
theorem readsBack_iff {p : Nat} {d : Decimal} : f.readsBack p d = true ↔
    (f.units (p - 1) + f.units p) * d.den ≤ 2 * d.num <<< f.scale ∧
    2 * d.num <<< f.scale ≤ (f.units p + f.units (p + 1)) * d.den ∧
    (p % 2 = 1 → (f.units (p - 1) + f.units p) * d.den < 2 * d.num <<< f.scale ∧
      2 * d.num <<< f.scale < (f.units p + f.units (p + 1)) * d.den) := by
  rw [readsBack]
  split
  · rw [decide_eq_true_iff]
    omega
  · rw [decide_eq_true_iff]
    omega

/-- The neighbours of a number stand below and above it, over any denominator. -/
theorem neighbours {p : Nat} (pos : 0 < p) (d : Decimal) :
    f.units (p - 1) * d.den < f.units p * d.den ∧ f.units p * d.den < f.units (p + 1) * d.den := by
  have below := f.units_lt_succ (p - 1)
  rw [Nat.sub_add_cancel pos] at below
  exact ⟨Nat.mul_lt_mul_of_pos_right below d.den_pos,
    Nat.mul_lt_mul_of_pos_right (f.units_lt_succ p) d.den_pos⟩

/-- Rounding down goes to the number or to the one below it, and the midpoint decides. -/
theorem nearest_of_readsBack {p : Nat} (pos : 0 < p) (finite : p < f.infinity) {d : Decimal}
    (h : f.readsBack p d = true) : f.nearest d = p := by
  obtain ⟨low, high, odd⟩ := f.readsBack_iff.1 h
  obtain ⟨below, above⟩ := f.neighbours pos d
  have ge : p - 1 ≤ f.floor (d.num <<< f.scale / d.den) := by
    rw [le_floor_iff, Nat.le_div_iff_mul_le d.den_pos]
    rw [Nat.add_mul] at low
    omega
  have lt : ¬ p + 1 ≤ f.floor (d.num <<< f.scale / d.den) := by
    rw [le_floor_iff, Nat.le_div_iff_mul_le d.den_pos]
    rw [Nat.add_mul] at high
    omega
  have near : f.floor (d.num <<< f.scale / d.den) = p - 1 ∨
      f.floor (d.num <<< f.scale / d.den) = p := by omega
  simp only [nearest]
  rcases near with e | e
  · rw [e, Nat.sub_add_cancel pos, if_pos (by omega)]
    exact Nat.min_eq_left finite.le
  · rw [e, if_neg (by omega)]
    exact Nat.min_eq_left finite.le

theorem nearest_of_value_eq_zero {d : Decimal} (h : d.value = 0) : f.nearest d = 0 := by
  have digits : d.digits = 0 := by
    rw [Decimal.value, mul_eq_zero, Nat.cast_eq_zero] at h
    exact h.resolve_right (zpow_ne_zero _ (by norm_num))
  have num : d.num = 0 := by rw [Decimal.num, digits, Nat.zero_mul]
  have floor : f.floor 0 = 0 :=
    Nat.le_zero.1 (Nat.le_trans f.units_strictMono.le_apply (f.units_floor_le 0))
  have middle : 0 < (f.units 0 + f.units 1) * d.den :=
    Nat.mul_pos (Nat.add_pos_right _ (Nat.lt_of_le_of_lt (Nat.zero_le _) (f.units_lt_succ 0)))
      d.den_pos
  simp only [nearest, num, Nat.zero_shiftLeft, Nat.zero_div, floor]
  rw [if_neg (by omega)]
  exact Nat.zero_min _

/-! ### The shortest decimal -/

theorem readsBack_onGrid? {p : Nat} {e : Int} {d : Decimal} (h : f.onGrid? p e = some d) :
    f.readsBack p d = true := by
  simp only [onGrid?] at h
  split at h <;> grind

/-- The number itself, which is on the finest grid. -/
theorem readsBack_exact {p : Nat} (pos : 0 < p) :
    f.readsBack p ⟨f.units p * Nat.pow 5 f.scale, -f.scale⟩ = true := by
  have num : Decimal.num ⟨f.units p * Nat.pow 5 f.scale, -f.scale⟩ = f.units p * 5 ^ f.scale := by
    show f.units p * 5 ^ f.scale * 10 ^ (-(f.scale : Int)).toNat = _
    rw [Int.toNat_eq_zero.2 (by omega), Nat.pow_zero, Nat.mul_one]
  have den : Decimal.den ⟨f.units p * Nat.pow 5 f.scale, -f.scale⟩ = 5 ^ f.scale * 2 ^ f.scale := by
    show 10 ^ (- -(f.scale : Int)).toNat = _
    rw [Int.neg_neg, Int.toNat_natCast, ← Nat.mul_pow]
  obtain ⟨below, above⟩ := f.neighbours pos ⟨f.units p * Nat.pow 5 f.scale, -f.scale⟩
  rw [readsBack_iff, num, Nat.shiftLeft_eq, Nat.mul_assoc, ← den, Nat.add_mul, Nat.add_mul]
  omega

theorem readsBack_search {p : Nat} (pos : 0 < p) : ∀ n, f.readsBack p (f.search p n) = true
  | 0 => f.readsBack_exact pos
  | n + 1 => by
    rw [search]
    cases e : f.onGrid? p (n + 1 - f.scale) with
    | none => exact readsBack_search pos n
    | some d => exact f.readsBack_onGrid? e

theorem readsBack_shortest {p : Nat} (pos : 0 < p) : f.readsBack p (f.shortest p) = true := by
  rw [shortest, if_neg pos.ne', f.readsBack_congr p (Decimal.value_strip _)]
  exact f.readsBack_search pos _

/-- A finite number is read back from its decimal. -/
theorem nearest_of_value_eq_shortest {p : Nat} (finite : p < f.infinity) {d : Decimal}
    (h : d.value = (f.shortest p).value) : f.nearest d = p := by
  rcases Nat.eq_zero_or_pos p with rfl | pos
  · refine f.nearest_of_value_eq_zero ?_
    rw [h, shortest, if_pos rfl, Decimal.value, Nat.cast_zero, zero_mul]
  · refine f.nearest_of_readsBack pos finite ?_
    rw [f.readsBack_congr p h]
    exact f.readsBack_shortest pos

/-! ### Words -/

/-- A text that is a decimal is none of the words, since it does not begin with a letter. -/
theorem ofMagnitude?_of_ofChars? {cs : List Char} {d : Decimal} (h : Decimal.ofChars? cs = some d) :
    f.ofMagnitude? cs = some (f.nearest d) := by
  cases cs with
  | nil => cases h
  | cons c rest =>
    have other : ∀ letter, letter.isDigit = false → letter ≠ '.' → c ≠ letter := by
      rintro letter digit point rfl
      rw [Decimal.ofChars?_cons rest digit point] at h
      cases h
    have i := other 'i' (by decide) (by decide)
    have n := other 'n' (by decide) (by decide)
    rw [ofMagnitude?, if_neg (by simp [i]), if_neg (by simp [n]), if_neg (by simp [n]), h]
    rfl

/-- A magnitude has no sign. -/
theorem ofMagnitude?_minus (cs : List Char) : f.ofMagnitude? ('-' :: cs) = none := by
  rw [ofMagnitude?, if_neg (by simp), if_neg (by simp), if_neg (by simp),
    Decimal.ofChars?_cons cs (by decide) (by decide)]
  rfl

theorem ofMagnitude?_payload {digits : List Char} {n : Nat} (h : Text.hexFrom? 0 digits = some n)
    (pos : 0 < n) (lt : n < f.leadingBit) :
    f.ofMagnitude? ("nan:0x".toList ++ digits) = some (f.infinity + n) := by
  rw [ofMagnitude?, if_neg (by simp), if_neg (by simp), if_pos (by simp),
    List.drop_left' (by simp), h]
  exact if_pos ⟨pos, lt⟩

theorem ofMagnitude?_magnitudeChars {p : Nat} (h : p < f.signWeight) :
    f.ofMagnitude? (f.magnitudeChars p) = some p := by
  rw [magnitudeChars]
  split
  · rename_i finite
    obtain ⟨d, hd, value⟩ := (f.shortest p).exists_ofChars?_chars
    rw [f.ofMagnitude?_of_ofChars? hd, f.nearest_of_value_eq_shortest finite value]
  · split
    · rename_i e
      rw [e]
      exact if_pos rfl
    · split
      · rename_i e
        rw [e]
        exact (if_neg (by decide)).trans (if_pos rfl)
      · rename_i finite infinite canonical
        rw [signWeight_eq] at h
        rw [f.ofMagnitude?_payload (Text.hexFrom?_toDigits_self _) (by omega) (by omega),
          Nat.add_sub_cancel' (by omega)]

/-- A float constant is read back bit for bit. -/
theorem ofLiteral?_literal {bits : Nat} (h : bits < 2 * f.signWeight) :
    f.ofLiteral? (f.literal bits) = some bits := by
  have magnitude := f.ofMagnitude?_magnitudeChars (Nat.mod_lt bits f.signWeight_pos)
  rw [literal, isNegative]
  by_cases negative : f.signWeight ≤ bits
  · rw [if_pos (decide_eq_true negative), List.singleton_append, ofLiteral?, Format.magnitude,
      magnitude, Nat.mod_eq_sub_mod negative, Nat.mod_eq_of_lt (by omega), Option.map_some]
    congr 1
    omega
  · rw [if_neg (by simpa using negative), List.nil_append, Format.magnitude]
    rw [Nat.mod_eq_of_lt (Nat.lt_of_not_le negative)] at magnitude ⊢
    unfold ofLiteral?
    split
    · rename_i e
      rw [e, ofMagnitude?_minus] at magnitude
      cases magnitude
    · exact magnitude

/-! ### Characters -/

/-- The characters that float constants are made of. -/
def isLiteralChar (c : Char) : Bool := c.isAlphanum || c == '-' || c == '.' || c == ':'

theorem isLiteralChar_of_isDigit {c : Char} (h : c.isDigit = true) : isLiteralChar c = true := by
  simp [isLiteralChar, Char.isAlphanum, h]

theorem isLiteralChar_digitChar : ∀ d < 16, isLiteralChar d.digitChar = true := by decide

theorem isLiteralChar_of_mem_magnitudeChars {p : Nat} {c : Char} (h : c ∈ f.magnitudeChars p) :
    isLiteralChar c = true := by
  have inf : "inf".toList.all isLiteralChar = true := by decide
  have nan : "nan".toList.all isLiteralChar = true := by decide
  have payload : "nan:0x".toList.all isLiteralChar = true := by decide
  have mark : ['.', 'e', '-'].all isLiteralChar = true := by decide
  rw [List.all_eq_true] at inf nan payload mark
  rw [magnitudeChars] at h
  split at h
  · rcases Decimal.mem_chars h with digit | h
    · exact isLiteralChar_of_isDigit digit
    · exact mark c h
  · split at h
    · exact inf c h
    · split at h
      · exact nan c h
      · rcases List.mem_append.1 h with h | h
        · exact payload c h
        · obtain ⟨d, hd, rfl⟩ := Text.exists_digit_of_mem_toDigits (by decide) h
          exact isLiteralChar_digitChar d hd

theorem isLiteralChar_of_mem_literal {bits : Nat} {c : Char} (h : c ∈ f.literal bits) :
    isLiteralChar c = true := by
  rw [literal, List.mem_append] at h
  rcases h with sign | h
  · split at sign
    · cases List.mem_singleton.1 sign
      decide
    · cases sign
  · exact f.isLiteralChar_of_mem_magnitudeChars h

end Embedder.Ieee.Format
