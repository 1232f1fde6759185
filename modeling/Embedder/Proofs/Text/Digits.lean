import Embedder.Text.Digits

/-!
Numbers are read back from their digits. A reader that takes digits from the left and keeps the
number they make so far has at their end the number itself; that is an induction on the number, not
on the digits, since the digits of `b * n + d` are those of `n` and one more.
-/

namespace Embedder.Text

/-- A reader that goes on with `b * soFar + d` after the digit `d` has read `n` after its digits. -/
theorem read_toDigits {β : Type} {b : Nat} (hb : 1 < b) (read : Nat → List Char → β)
    (step : ∀ soFar d rest, d < b → read soFar (d.digitChar :: rest) = read (b * soFar + d) rest)
    (n : Nat) (rest : List Char) : read 0 (Nat.toDigits b n ++ rest) = read n rest := by
  induction n using Nat.base_induction b hb generalizing rest with
  | single d hd =>
    rw [Nat.toDigits_of_lt_base hd, List.singleton_append, step 0 d rest hd, Nat.mul_zero,
      Nat.zero_add]
  | digit n d hd hn ih =>
    rw [← Nat.toDigits_append_toDigits hb hn hd, Nat.toDigits_of_lt_base hd, List.append_assoc, ih,
      List.singleton_append, step n d rest hd]

theorem exists_digit_of_mem_toDigits {b n : Nat} {c : Char} (hb : 1 < b)
    (h : c ∈ Nat.toDigits b n) : ∃ d < b, d.digitChar = c := by
  induction n using Nat.base_induction b hb with
  | single d hd =>
    rw [Nat.toDigits_of_lt_base hd, List.mem_singleton] at h
    exact ⟨d, hd, h.symm⟩
  | digit n d hd hn ih =>
    rw [← Nat.toDigits_append_toDigits hb hn hd, List.mem_append, Nat.toDigits_of_lt_base hd,
      List.mem_singleton] at h
    rcases h with h | h
    · exact ih h
    · exact ⟨d, hd, h.symm⟩

/-! ### Decimal -/

theorem isDigit_of_mem_toDigits {n : Nat} {c : Char} (h : c ∈ Nat.toDigits 10 n) :
    c.isDigit = true :=
  Nat.isDigit_of_mem_toDigits (by decide) (Nat.le_refl 10) h

/-- Digits are read whatever they are, a zero in front included. -/
theorem decimal?_eq_some {cs : List Char} (ne : cs ≠ []) (h : ∀ c ∈ cs, c.isDigit = true) :
    decimal? cs = some (Nat.ofDigitChars 10 cs 0) := if_pos ⟨ne, List.all_eq_true.2 h⟩

@[simp] theorem decimal?_toDigits (n : Nat) : decimal? (Nat.toDigits 10 n) = some n := by
  rw [decimal?_eq_some Nat.toDigits_ne_nil fun _ => isDigit_of_mem_toDigits,
    Nat.ofDigitChars_ten_toDigits]

theorem toList_toString (n : Nat) : (toString n).toList = Nat.toDigits 10 n := Nat.toList_repr

theorem toString_inj {m n : Nat} : toString m = toString n ↔ m = n := by
  refine ⟨fun h => ?_, congrArg toString⟩
  have digits := congrArg (fun s => decimal? s.toList) h
  simpa [toList_toString] using digits

/-- A word of digits has no sign. -/
@[simp] theorem signed?_toDigits (n : Nat) : signed? (Nat.toDigits 10 n) = some (n : Int) := by
  unfold signed?
  split
  · rename_i e
    have digit : ('-').isDigit = true := isDigit_of_mem_toDigits (e ▸ List.mem_cons_self)
    exact absurd digit (by decide)
  · rw [decimal?_toDigits]
    rfl

@[simp] theorem signed?_toString (i : Int) : signed? (toString i).toList = some i := by
  rw [Int.toString_eq_repr, Int.repr_eq_if]
  split
  · rename_i nonneg
    rw [Nat.toList_repr, signed?_toDigits, Int.toNat_of_nonneg nonneg]
  · rename_i neg
    have minus : "-".toList = ['-'] := by simp
    rw [String.toList_append, Nat.toList_repr, minus, List.singleton_append, signed?,
      decimal?_toDigits]
    show some (-((-i).toNat : Int)) = some i
    rw [Int.toNat_of_nonneg (by omega), Int.neg_neg]

/-! ### What is read as a number -/

theorem isDigit_of_decimal? {cs : List Char} {n : Nat} (h : decimal? cs = some n) :
    ∀ c ∈ cs, c.isDigit = true := by
  unfold decimal? at h
  split at h
  · rename_i digits
    exact List.all_eq_true.1 digits.2
  · cases h

theorem mem_of_signed? {cs : List Char} {i : Int} (h : signed? cs = some i) :
    ∀ c ∈ cs, c.isDigit = true ∨ c = '-' := by
  intro c hc
  unfold signed? at h
  split at h
  · rename_i cs
    rcases List.mem_cons.1 hc with rfl | hc
    · exact Or.inr rfl
    · cases hd : decimal? cs with
      | none => rw [hd] at h; cases h
      | some n => exact Or.inl (isDigit_of_decimal? hd c hc)
  · cases hd : decimal? cs with
    | none => rw [hd] at h; cases h
    | some n => exact Or.inl (isDigit_of_decimal? hd c hc)

/-! ### Hexadecimal -/

theorem hexDigit?_digitChar : ∀ d < 16, hexDigit? d.digitChar = some d := by decide

theorem hexFrom?_toDigits (n : Nat) (rest : List Char) :
    hexFrom? 0 (Nat.toDigits 16 n ++ rest) = hexFrom? n rest := by
  refine read_toDigits (by decide) hexFrom? (fun soFar d rest hd => ?_) n rest
  rw [hexFrom?, hexDigit?_digitChar d hd]
  rfl

@[simp] theorem hexFrom?_toDigits_self (n : Nat) : hexFrom? 0 (Nat.toDigits 16 n) = some n := by
  have read := hexFrom?_toDigits n []
  rwa [List.append_nil] at read

end Embedder.Text
