import Embedder.Proofs.Ieee.Literal
import Mathlib.Algebra.Order.Field.Basic
import Mathlib.Tactic.Linarith
import Mathlib.Tactic.Positivity

/-!
What the text of a float denotes. A decimal denotes the pattern whose number is nearest to it, the
even one if two are as near, and there is one such pattern for every decimal: reading computes it
from the last pattern that is not above the decimal. Infinity takes part in this as the number that
would come after the largest.
-/

namespace Embedder.Ieee.Format

variable (f : Format)

/-! ### Nearest patterns -/

/-- The number of a pattern without sign. -/
def number (p : Nat) : ℚ := f.units p / 2 ^ f.scale

/-- No pattern up to infinity is nearer to the number, and one that is as near leaves the even
one. -/
structure IsNearest (x : ℚ) (p : Nat) : Prop where
  le_infinity : p ≤ f.infinity
  closest : ∀ q ≤ f.infinity, |f.number p - x| ≤ |f.number q - x|
  even : ∀ q ≤ f.infinity, q ≠ p → |f.number q - x| = |f.number p - x| → p % 2 = 0

theorem number_strictMono : StrictMono f.number := by
  intro p q h
  have lt : (f.units p : ℚ) < f.units q := by exact_mod_cast f.units_strictMono h
  exact div_lt_div_of_pos_right lt (by positivity)

/-- What lies between two numbers that are as far off is nearer. -/
theorem abs_sub_lt_of_between {a b m x : ℚ} (same : |a - x| = |b - x|) (lower : a < m)
    (upper : m < b) : |m - x| < |a - x| := by
  rcases abs_eq_abs.1 same with e | e
  · linarith
  · have left : a - x < 0 := by linarith
    rw [abs_of_neg left, abs_lt]
    constructor <;> linarith

/-- No other pattern is the nearest too: one between the two would be nearer, and of two neighbours
one is odd. -/
theorem IsNearest.unique {f : Format} {x : ℚ} {p q : Nat} (hp : f.IsNearest x p)
    (hq : f.IsNearest x q) : p = q := by
  wlog lt : p < q generalizing p q
  · rcases Nat.lt_or_eq_of_le (Nat.le_of_not_lt lt) with lt | eq
    · exact (this hq hp lt).symm
    · exact eq.symm
  have same : |f.number p - x| = |f.number q - x| :=
    le_antisymm (hp.closest q hq.le_infinity) (hq.closest p hp.le_infinity)
  have even : p % 2 = 0 := hp.even q hq.le_infinity lt.ne' same.symm
  have even' : q % 2 = 0 := hq.even p hp.le_infinity lt.ne same
  have between : p + 1 < q := by omega
  have nearer := abs_sub_lt_of_between same (f.number_strictMono (Nat.lt_succ_self p))
    (f.number_strictMono between)
  exact absurd (hp.closest (p + 1) (between.le.trans hq.le_infinity)) (not_le.2 nearer)

/-! ### Rounding -/

/-- How far a pattern is from a decimal, in units over the denominator of the decimal. -/
def distance (d : Decimal) (p : Nat) : Nat :=
  ((f.units p * d.den : Nat) - (d.num <<< f.scale : Nat) : Int).natAbs

theorem abs_number_sub (d : Decimal) (p : Nat) :
    |f.number p - d.value| = f.distance d p / (d.den * 2 ^ f.scale) := by
  have den : (0 : ℚ) < d.den := by exact_mod_cast d.den_pos
  have e : f.number p - d.value =
      ((f.units p * d.den : Nat) - (d.num <<< f.scale : Nat) : Int) / (d.den * 2 ^ f.scale) := by
    rw [number, Decimal.value_eq_div, Nat.shiftLeft_eq]
    push_cast
    field_simp
  have pos : (0 : ℚ) < d.den * 2 ^ f.scale := by positivity
  rw [e, abs_div, abs_of_pos pos, distance, Nat.cast_natAbs, Int.cast_abs]

theorem distance_le_iff (d : Decimal) (p q : Nat) :
    |f.number p - d.value| ≤ |f.number q - d.value| ↔ f.distance d p ≤ f.distance d q := by
  have den : (0 : ℚ) < d.den := by exact_mod_cast d.den_pos
  rw [abs_number_sub, abs_number_sub, div_le_div_iff_of_pos_right (by positivity), Nat.cast_le]

theorem distance_eq_iff (d : Decimal) (p q : Nat) :
    |f.number p - d.value| = |f.number q - d.value| ↔ f.distance d p = f.distance d q := by
  rw [le_antisymm_iff, distance_le_iff, distance_le_iff, ← Nat.le_antisymm_iff]

theorem mul_den_strictMono (d : Decimal) : StrictMono fun p => f.units p * d.den :=
  fun _ _ h => Nat.mul_lt_mul_of_pos_right (f.units_strictMono h) d.den_pos

/-- Between a point of a grid and the next the midpoint decides, and at the midpoint the even one is
taken. -/
theorem natAbs_sub_le_of_midpoint {grid : Nat → Nat} (mono : StrictMono grid) {x b : Nat}
    (below : grid b ≤ x) (above : x < grid (b + 1)) (q : Nat) :
    let up := grid b + grid (b + 1) < 2 * x ∨ grid b + grid (b + 1) = 2 * x ∧ b % 2 = 1
    let c := if up then b + 1 else b
    (grid c - x : Int).natAbs ≤ (grid q - x : Int).natAbs ∧
      (q ≠ c → (grid q - x : Int).natAbs = (grid c - x : Int).natAbs → c % 2 = 0) := by
  intro up c
  have before : q < b → grid q < grid b := fun h => mono h
  have after : b + 1 < q → grid (b + 1) < grid q := fun h => mono h
  have place : q < b ∨ q = b ∨ q = b + 1 ∨ b + 1 < q := by omega
  simp only [c]
  by_cases h : up
  · rw [if_pos h]
    rcases place with lt | rfl | rfl | lt <;> omega
  · rw [if_neg h]
    rcases place with lt | rfl | rfl | lt <;> omega

/-- How a decimal would be rounded if patterns went on above infinity. -/
theorem exists_nearest_eq_min (d : Decimal) : ∃ c, f.nearest d = min c f.infinity ∧
    (∀ p < c, f.units p * d.den ≤ d.num <<< f.scale) ∧
    ∀ q, f.distance d c ≤ f.distance d q ∧
      (q ≠ c → f.distance d q = f.distance d c → c % 2 = 0) := by
  have mono := f.mul_den_strictMono d
  have below : f.units (f.floor (d.num <<< f.scale / d.den)) * d.den ≤ d.num <<< f.scale := by
    rw [← Nat.le_div_iff_mul_le d.den_pos]
    exact f.units_floor_le _
  have above : d.num <<< f.scale < f.units (f.floor (d.num <<< f.scale / d.den) + 1) * d.den := by
    rw [← Nat.div_lt_iff_lt_mul d.den_pos]
    exact f.lt_units_floor_succ _
  have near := natAbs_sub_le_of_midpoint mono below above
  simp only [← Nat.add_mul] at near
  refine ⟨_, rfl, fun p hp => ?_, near⟩
  have le : p ≤ f.floor (d.num <<< f.scale / d.den) := by
    split at hp <;> omega
  exact Nat.le_trans (mono.monotone le) below

theorem isNearest_nearest (d : Decimal) : f.IsNearest d.value (f.nearest d) := by
  obtain ⟨c, e, below, near⟩ := f.exists_nearest_eq_min d
  rw [e]
  rcases Nat.lt_or_ge f.infinity c with infinite | finite
  · -- the decimal is not below infinity, and all other patterns are
    have last := below f.infinity infinite
    have mono := f.mul_den_strictMono d
    rw [Nat.min_eq_right infinite.le]
    refine ⟨Nat.le_refl _, fun q hq => ?_, fun q hq ne same => ?_⟩
    · have le := mono.monotone hq
      rw [distance_le_iff, distance, distance]
      omega
    · have lt := mono (Nat.lt_of_le_of_ne hq ne)
      rw [distance_eq_iff, distance, distance] at same
      dsimp only at lt
      omega
  · rw [Nat.min_eq_left finite]
    refine ⟨finite, fun q _ => (f.distance_le_iff d _ _).2 (near q).1, fun q _ ne same => ?_⟩
    exact (near q).2 ne ((f.distance_eq_iff d _ _).1 same)

/-- Reading rounds a decimal to its nearest pattern. -/
theorem isNearest_iff {d : Decimal} {p : Nat} : f.IsNearest d.value p ↔ f.nearest d = p :=
  ⟨(f.isNearest_nearest d).unique, fun h => h ▸ f.isNearest_nearest d⟩

/-! ### Literals -/

/-- The patterns without sign that a text denotes. -/
inductive DenotesMagnitude (f : Format) : List Char → Nat → Prop
  | infinity : DenotesMagnitude f "inf".toList f.infinity
  | nan : DenotesMagnitude f "nan".toList (f.infinity + f.canonicalPayload)
  | payload {digits : List Char} {n : Nat} : Text.hexFrom? 0 digits = some n → 0 < n →
    n < f.leadingBit → DenotesMagnitude f ("nan:0x".toList ++ digits) (f.infinity + n)
  | decimal {cs : List Char} {d : Decimal} {p : Nat} : Decimal.ofChars? cs = some d →
    f.IsNearest d.value p → DenotesMagnitude f cs p

/-- The patterns that a text denotes, after a minus sign those with the sign bit. -/
inductive Denotes (f : Format) : List Char → Nat → Prop
  | plain {cs : List Char} {p : Nat} : f.DenotesMagnitude cs p → Denotes f cs p
  | minus {cs : List Char} {p : Nat} :
    f.DenotesMagnitude cs p → Denotes f ('-' :: cs) (f.signWeight + p)

theorem ofMagnitude?_eq_some_iff {cs : List Char} {p : Nat} :
    f.ofMagnitude? cs = some p ↔ f.DenotesMagnitude cs p := by
  constructor
  · intro h
    unfold ofMagnitude? at h
    split at h
    · rename_i e
      cases h
      exact e ▸ .infinity
    · split at h
      · rename_i e
        cases h
        exact e ▸ .nan
      · split at h
        · rename_i e
          obtain ⟨n, hex, h⟩ := Option.bind_eq_some_iff.1 h
          split at h
          · rename_i bounds
            cases h
            rw [← List.take_append_drop 6 cs, e]
            exact .payload hex bounds.1 bounds.2
          · cases h
        · obtain ⟨d, hd, e⟩ := Option.map_eq_some_iff.1 h
          exact .decimal hd (f.isNearest_iff.2 e)
  · intro h
    cases h with
    | infinity => exact if_pos rfl
    | nan => exact (if_neg (by decide)).trans (if_pos rfl)
    | payload hex pos lt => exact f.ofMagnitude?_payload hex pos lt
    | decimal hd near => rw [f.ofMagnitude?_of_ofChars? hd, f.isNearest_iff.1 near]

/-- Reading finds the patterns that a text denotes, so there is one at most. -/
theorem ofLiteral?_eq_some_iff {cs : List Char} {bits : Nat} :
    f.ofLiteral? cs = some bits ↔ f.Denotes cs bits := by
  constructor
  · intro h
    unfold ofLiteral? at h
    split at h
    · obtain ⟨p, hp, rfl⟩ := Option.map_eq_some_iff.1 h
      exact .minus (f.ofMagnitude?_eq_some_iff.1 hp)
    · exact .plain (f.ofMagnitude?_eq_some_iff.1 h)
  · intro h
    cases h with
    | plain h =>
      have read := f.ofMagnitude?_eq_some_iff.2 h
      unfold ofLiteral?
      split
      · rw [ofMagnitude?_minus] at read
        cases read
      · exact read
    | minus h => rw [ofLiteral?, f.ofMagnitude?_eq_some_iff.2 h, Option.map_some]

end Embedder.Ieee.Format
