import Embedder.Ieee.Decimal
import Embedder.Proofs.Reader
import Embedder.Proofs.Text.Digits
import Mathlib.Algebra.Order.Field.Rat
import Mathlib.Data.List.TakeDrop
import Mathlib.Tactic.FieldSimp
import Mathlib.Tactic.Ring

/-!
The text of a decimal is of the same number. Whatever the layout, what is written is whole digits,
places after a point and an exponent; reading puts whole digits and places together and moves the
point. A number without places gets zeros on the way, so decimals are compared by their value.
-/

namespace Embedder.Ieee.Decimal

/-- The number that the digits and the exponent are for. -/
def value (d : Decimal) : ℚ := d.digits * 10 ^ d.exponent

theorem den_pos (d : Decimal) : 0 < d.den := Nat.pow_pos (by decide)

theorem value_eq_div (d : Decimal) : d.value = d.num / d.den := by
  obtain ⟨digits, n | n⟩ := d
  · have den : den ⟨digits, Int.ofNat n⟩ = 1 := by
      show Nat.pow 10 (-(n : Int)).toNat = 1
      rw [Int.toNat_eq_zero.2 (by omega)]
    rw [den, Nat.cast_one, div_one]
    show (digits : ℚ) * 10 ^ (n : ℤ) = ((digits * 10 ^ n : ℕ) : ℚ)
    push_cast
    rw [zpow_natCast]
  · show (digits : ℚ) * 10 ^ Int.negSucc n = ((digits * 1 : ℕ) : ℚ) / ((10 ^ (n + 1) : ℕ) : ℚ)
    rw [zpow_negSucc, Nat.mul_one, Nat.cast_pow, div_eq_mul_inv]
    rfl

/-- Zeros at the end of the digits do not matter. -/
theorem value_strip (d : Decimal) : d.strip.value = d.value := by
  fun_induction strip d with
  | case1 d h ih =>
    have e : (d.digits : ℚ) = (d.digits / 10 : ℕ) * 10 := by
      exact_mod_cast (Nat.div_mul_cancel (Nat.dvd_of_mod_eq_zero h.2)).symm
    rw [ih, value, value, zpow_add_one₀ (by norm_num), e]
    ring
  | case2 d h => rfl

/-! ### Reading -/

theorem span_isDigit {cs rest : List Char} (h : ∀ c ∈ cs, c.isDigit = true)
    (h' : ∀ c ∈ rest.head?, c.isDigit = false) : (cs ++ rest).span Char.isDigit = (cs, rest) := by
  obtain ⟨taken, left⟩ := Reader.takeWhile_dropWhile_append h h'
  rw [List.span_eq_takeWhile_dropWhile, taken, left]

/-- An exponent begins with its mark or is not there. -/
theorem eq_mark_of_exponent? {cs : List Char} {e : Int} (h : exponent? cs = some e) :
    ∀ c ∈ cs.head?, c = 'e' := by
  intro c hc
  unfold exponent? at h
  split at h
  · cases hc
  · cases hc
    rfl
  · cases h

/-- Whole digits, places and an exponent are read as what they are. -/
theorem ofChars?_parts {whole places tail : List Char} {e : Int} (ne : whole ≠ [])
    (hw : ∀ c ∈ whole, c.isDigit = true) (hp : ∀ c ∈ places, c.isDigit = true)
    (ht : exponent? tail = some e) :
    ofChars? (whole ++ fractional places ++ tail) =
      some ⟨Nat.ofDigitChars 10 (whole ++ places) 0, e - places.length⟩ := by
  have hmark := eq_mark_of_exponent? ht
  have stop : ∀ c ∈ tail.head?, c.isDigit = false := by
    intro c hc
    rw [hmark c hc]
    decide
  have split : splitFraction (fractional places ++ tail) = (places, tail) := by
    cases places with
    | nil =>
      cases tail with
      | nil => rfl
      | cons c tail => rw [hmark c rfl]; rfl
    | cons p places => exact span_isDigit hp stop
  have first : ∀ c ∈ (fractional places ++ tail).head?, c.isDigit = false := by
    cases places with
    | nil => exact stop
    | cons p places =>
      intro c hc
      cases hc
      decide
  have digits : ∀ c ∈ whole ++ places, c.isDigit = true := by
    intro c hc
    rcases List.mem_append.1 hc with hc | hc
    · exact hw c hc
    · exact hp c hc
  rw [List.append_assoc, ofChars?, span_isDigit hw first]
  simp only [split, Text.decimal?_eq_some (List.append_ne_nil_of_left_ne_nil ne places) digits, ht]
  rfl

/-- A decimal begins with a digit or a point. -/
theorem ofChars?_cons {c : Char} (cs : List Char) (digit : c.isDigit = false) (point : c ≠ '.') :
    ofChars? (c :: cs) = none := by
  have split : splitFraction (c :: cs) = ([], c :: cs) := by
    unfold splitFraction
    split
    · rename_i e
      cases e
      exact absurd rfl point
    · rfl
  have empty : ∀ d ∈ ([] : List Char), d.isDigit = true := fun _ h => nomatch h
  have whole : (c :: cs).span Char.isDigit = ([], c :: cs) :=
    span_isDigit empty (by simpa using digit)
  rw [ofChars?, whole]
  simp only [split]
  rfl

/-! ### Layouts -/

theorem fractional_of_ne_nil {cs : List Char} (ne : cs ≠ []) : fractional cs = '.' :: cs := by
  cases cs with
  | nil => exact absurd rfl ne
  | cons => rfl

/-- Whole digits, places and an exponent that are of the decimal, with so many zeros after its
digits. -/
structure Spells (d : Decimal) (whole places tail : List Char) (zeros : Nat) : Prop where
  whole_ne_nil : whole ≠ []
  digits : ∀ c ∈ whole ++ places, c.isDigit = true
  number : Nat.ofDigitChars 10 (whole ++ places) 0 = d.digits * 10 ^ zeros
  exponent : exponent? tail = some (d.exponent - zeros + places.length)

theorem isDigit_of_mem_replicate {n : Nat} {c : Char} (h : c ∈ List.replicate n '0') :
    c.isDigit = true := by
  rw [List.eq_of_mem_replicate h]
  decide

section Layouts

variable {d : Decimal} {ds : List Char} (digits : ∀ c ∈ ds, c.isDigit = true)
  (number : Nat.ofDigitChars 10 ds 0 = d.digits)

include digits number

/-- The point goes anywhere after the first digit as long as the exponent makes up for it. -/
theorem spells_split {k : Nat} (first : (ds.take k).length ≠ 0) {tail : List Char}
    (h : exponent? tail = some (d.exponent + (ds.drop k).length)) :
    Spells d (ds.take k) (ds.drop k) tail 0 where
  whole_ne_nil := fun e => first (by rw [e]; rfl)
  digits := by rwa [List.take_append_drop]
  number := by rw [List.take_append_drop, number, Nat.pow_zero, Nat.mul_one]
  exponent := by rwa [Nat.cast_zero, Int.sub_zero]

/-- Zeros before the point, and one after it. -/
theorem spells_zeros_after (ne : ds ≠ []) (h : 0 ≤ d.exponent) :
    Spells d (ds ++ List.replicate d.exponent.toNat '0') ['0'] [] (d.exponent.toNat + 1) where
  whole_ne_nil := List.append_ne_nil_of_left_ne_nil ne _
  digits := by
    intro c hc
    rw [List.append_assoc, ← List.replicate_succ'] at hc
    rcases List.mem_append.1 hc with hc | hc
    · exact digits c hc
    · exact isDigit_of_mem_replicate hc
  number := by
    rw [List.append_assoc, ← List.replicate_succ', Nat.ofDigitChars_append, number,
      Nat.ofDigitChars_replicate_zero, Nat.mul_comm]
  exponent := by
    rw [exponent?, List.length_singleton]
    congr 1
    omega

/-- Zeros between the point and the digits. -/
theorem spells_zeros_before {k : Nat} (h : d.exponent + (k + ds.length) = 0) :
    Spells d ['0'] (List.replicate k '0' ++ ds) [] 0 where
  whole_ne_nil := List.cons_ne_nil _ _
  digits := by
    intro c hc
    rw [List.singleton_append, ← List.cons_append, ← List.replicate_succ] at hc
    rcases List.mem_append.1 hc with hc | hc
    · exact isDigit_of_mem_replicate hc
    · exact digits c hc
  number := by
    rw [List.singleton_append, ← List.cons_append, ← List.replicate_succ, Nat.ofDigitChars_append,
      Nat.ofDigitChars_replicate_zero, Nat.mul_zero, number, Nat.pow_zero, Nat.mul_one]
  exponent := by
    rw [exponent?, List.length_append, List.length_replicate]
    congr 1
    omega

end Layouts

/-- Each layout writes such parts. -/
theorem exists_spells (d : Decimal) : ∃ whole places tail zeros,
    Spells d whole places tail zeros ∧ d.chars constants = whole ++ fractional places ++ tail := by
  have digits : ∀ c ∈ Nat.toDigits 10 d.digits, c.isDigit = true :=
    fun _ => Text.isDigit_of_mem_toDigits
  have number : Nat.ofDigitChars 10 (Nat.toDigits 10 d.digits) 0 = d.digits :=
    Nat.ofDigitChars_ten_toDigits
  have ne : Nat.toDigits 10 d.digits ≠ [] := Nat.toDigits_ne_nil
  simp only [chars]
  generalize Nat.toDigits 10 d.digits = ds at digits number ne
  have pos := List.length_pos_iff.2 ne
  split
  · split
    · rename_i whole
      refine ⟨_, _, _, _, spells_zeros_after digits number ne whole, ?_⟩
      rw [List.append_nil]
      rfl
    · split
      · rename_i fraction lead
        -- The point stands between two digits, so there are some on both sides.
        have left : (ds.take (d.exponent + ds.length - 1 + 1).toNat).length ≠ 0 := by
          rw [List.length_take]
          omega
        have right : 0 < (ds.drop (d.exponent + ds.length - 1 + 1).toNat).length := by
          rw [List.length_drop]
          omega
        refine ⟨_, _, [], _, spells_split digits number left ?_, ?_⟩
        · rw [exponent?, List.length_drop]
          congr 1
          omega
        · rw [fractional_of_ne_nil (List.ne_nil_of_length_pos right), List.append_nil]
      · rename_i fraction lead
        refine ⟨_, _, _, _, spells_zeros_before (k := (-(d.exponent + ds.length - 1) - 1).toNat)
          digits number (by omega), ?_⟩
        rw [fractional_of_ne_nil (List.append_ne_nil_of_right_ne_nil _ ne), List.append_nil]
        rfl
  · have first : (ds.take 1).length ≠ 0 := by
      rw [List.length_take]
      omega
    refine ⟨_, _, _, _, spells_split digits number first ?_, rfl⟩
    show Text.signed? (toString _).toList = _
    rw [Text.signed?_toString, List.length_drop]
    congr 1
    omega

/-- Writing and reading keep the number. -/
theorem exists_ofChars?_chars (d : Decimal) :
    ∃ d', ofChars? (d.chars constants) = some d' ∧ d'.value = d.value := by
  obtain ⟨whole, places, tail, zeros, h, e⟩ := d.exists_spells
  refine ⟨⟨d.digits * 10 ^ zeros, d.exponent - zeros⟩, ?_, ?_⟩
  · rw [e, ofChars?_parts h.whole_ne_nil (fun c hc => h.digits c (List.mem_append_left places hc))
      (fun c hc => h.digits c (List.mem_append_right whole hc)) h.exponent, h.number,
      Int.add_sub_cancel]
  · rw [value, value, zpow_sub₀ (by norm_num), zpow_natCast]
    push_cast
    field_simp

/-! ### Characters -/

theorem mem_of_exponent? {cs : List Char} {e : Int} (h : exponent? cs = some e) :
    ∀ c ∈ cs, c.isDigit = true ∨ c ∈ ['e', '-'] := by
  intro c hc
  unfold exponent? at h
  split at h
  · cases hc
  · rcases List.mem_cons.1 hc with rfl | hc
    · exact Or.inr (by decide)
    · rcases Text.mem_of_signed? h c hc with digit | rfl
      · exact Or.inl digit
      · exact Or.inr (by decide)
  · cases h

/-- The characters of a constant. -/
theorem mem_chars {d : Decimal} {c : Char} (h : c ∈ d.chars constants) :
    c.isDigit = true ∨ c ∈ ['.', 'e', '-'] := by
  obtain ⟨whole, places, tail, zeros, spells, e⟩ := d.exists_spells
  have point : ∀ c ∈ fractional places, c ∈ places ∨ c = '.' := by
    intro c hc
    cases places with
    | nil => cases hc
    | cons p places => exact (List.mem_cons.1 hc).symm
  rw [e, List.mem_append, List.mem_append] at h
  rcases h with (h | h) | h
  · exact Or.inl (spells.digits c (List.mem_append_left places h))
  · rcases point c h with h | rfl
    · exact Or.inl (spells.digits c (List.mem_append_right whole h))
    · exact Or.inr (by decide)
  · rcases mem_of_exponent? spells.exponent c h with digit | h
    · exact Or.inl digit
    · exact Or.inr (List.mem_cons_of_mem _ h)

end Embedder.Ieee.Decimal
