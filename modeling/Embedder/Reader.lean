/-!
Readers take one thing off the front of a list and leave the rest, or refuse it. A reader that
always takes something can be run to the end of its input.
-/

namespace Embedder

abbrev Reader (σ α : Type) := StateT (List σ) Option α

namespace Reader

/-- The first symbol. -/
def next : Reader σ σ
  | [] => none
  | s :: rest => some (s, rest)

/-- What there may be already, without taking anything. -/
def ofOption (x? : Option α) : Reader σ α := StateT.lift x?

/-! ### How much a reader takes -/

/-- The reader leaves no more than it found. -/
def Consumes (read : Reader σ α) : Prop :=
  ∀ ⦃input x rest⦄, read input = some (x, rest) → rest.length ≤ input.length

/-- The reader leaves less than it found. -/
def Shrinks (read : Reader σ α) : Prop :=
  ∀ ⦃input x rest⦄, read input = some (x, rest) → rest.length < input.length

theorem Consumes.pure (x : α) : Consumes (Pure.pure x : Reader σ α) := by
  intro input y rest h
  cases h
  exact Nat.le_refl _

theorem Consumes.failure : Consumes (failure : Reader σ α) := by
  intro input x rest h
  cases h

theorem Consumes.ofOption (x? : Option α) : Consumes (Reader.ofOption x? : Reader σ α) := by
  intro input x rest h
  cases x? <;> cases h
  exact Nat.le_refl _

theorem Consumes.ofGuard (p : Prop) [Decidable p] : Consumes (guard p : Reader σ Unit) := by
  unfold guard
  split
  · exact .pure ()
  · exact .failure

theorem Consumes.bind {read : Reader σ α} {next : α → Reader σ β} (h : read.Consumes)
    (h' : ∀ x, (next x).Consumes) : (read >>= next).Consumes := by
  intro input y rest e
  obtain ⟨⟨x, mid⟩, hx, hy⟩ := Option.bind_eq_some_iff.1 e
  exact Nat.le_trans (h' x hy) (h hx)

theorem Shrinks.bind {read : Reader σ α} {next : α → Reader σ β} (h : read.Shrinks)
    (h' : ∀ x, (next x).Consumes) : (read >>= next).Shrinks := by
  intro input y rest e
  obtain ⟨⟨x, mid⟩, hx, hy⟩ := Option.bind_eq_some_iff.1 e
  exact Nat.lt_of_le_of_lt (h' x hy) (h hx)

theorem Shrinks.consumes {read : Reader σ α} (h : read.Shrinks) : read.Consumes :=
  fun _ _ _ e => Nat.le_of_lt (h e)

theorem shrinks_next : (next : Reader σ σ).Shrinks := by
  intro input x rest h
  cases input <;> cases h
  exact Nat.lt_succ_self _

/-! ### To the end -/

/-- One thing after the other until nothing is left. -/
def all (read : Reader σ α) (h : read.Shrinks) (input : List σ) : Option (List α) :=
  if input.isEmpty then some []
  else match _e : read input with
    | some (x, rest) => (read.all h rest).map (x :: ·)
    | none => none
  termination_by input.length
  decreasing_by exact h _e

theorem all_nil (read : Reader σ α) (h : read.Shrinks) : read.all h [] = some [] := by
  simp [all]

theorem all_of_read {read : Reader σ α} (h : read.Shrinks) {input rest : List σ} {x : α}
    (e : read input = some (x, rest)) : read.all h input = (read.all h rest).map (x :: ·) := by
  have ne : input.isEmpty = false := by
    cases input with
    | nil => exact absurd (h e) (Nat.not_lt_zero _)
    | cons => rfl
  rw [all, ne]
  simp only [Bool.false_eq_true, if_false]
  split <;> simp_all

end Reader

end Embedder
