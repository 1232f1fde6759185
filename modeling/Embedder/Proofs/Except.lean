import Mathlib.Data.List.Forall2

/-!
Computations that may fail, in turn and over a list: when all goes well, and which failure is the
answer.
-/

namespace Embedder

theorem bind_eq_ok_iff {x : Except ε α} {next : α → Except ε β} {y : β} :
    x >>= next = .ok y ↔ ∃ a, x = .ok a ∧ next a = .ok y := by
  cases x <;> simp [bind, Except.bind]

theorem map_eq_ok_iff {x : Except ε α} {f : α → β} {y : β} :
    x.map f = .ok y ↔ ∃ a, x = .ok a ∧ f a = y := by
  cases x <;> simp [Except.map]

theorem map_eq_error_iff {x : Except ε α} {f : α → β} {e : ε} :
    x.map f = .error e ↔ x = .error e := by
  cases x <;> simp [Except.map]

/-! ### Lists -/

section Lists

variable {f : α → Except ε β} {x : α} {xs : List α} {ys : List β} {e : ε}

theorem mapM_cons_eq_ok_iff :
    (x :: xs).mapM f = .ok ys ↔ ∃ y rest, f x = .ok y ∧ xs.mapM f = .ok rest ∧ y :: rest = ys := by
  rw [List.mapM_cons]
  cases f x <;> cases xs.mapM f <;> simp [bind, Except.bind, pure, Except.pure]

theorem exists_mapM_ok {P : β → α → Prop} : ∀ {xs : List α},
    (∀ x ∈ xs, ∃ y, f x = .ok y ∧ P y x) → ∃ ys, xs.mapM f = .ok ys ∧ List.Forall₂ P ys xs
  | [], _ => ⟨[], rfl, .nil⟩
  | x :: xs, h => by
    obtain ⟨y, hy, hp⟩ := h x List.mem_cons_self
    obtain ⟨ys, hys, hps⟩ := exists_mapM_ok fun z hz => h z (List.mem_cons_of_mem x hz)
    exact ⟨y :: ys, by rw [List.mapM_cons, hy, hys]; rfl, .cons hp hps⟩

theorem exists_of_mapM_ok : ∀ {xs : List α} {ys : List β},
    xs.mapM f = .ok ys → ∀ x ∈ xs, ∃ y, f x = .ok y
  | [], _, _, _, hx => nomatch hx
  | z :: xs, ys, h, x, hx => by
    obtain ⟨y, rest, hz, hs, -⟩ := mapM_cons_eq_ok_iff.1 h
    rcases List.mem_cons.1 hx with rfl | hx
    · exact ⟨y, hz⟩
    · exact exists_of_mapM_ok hs x hx

/-- A list fails with the first of its elements that fails. -/
theorem mapM_eq_error_iff : xs.mapM f = .error e ↔
    ∃ x, xs.find? (fun x => !(f x).isOk) = some x ∧ f x = .error e := by
  induction xs with
  | nil => simp [pure, Except.pure]
  | cons x xs ih =>
    rw [List.mapM_cons, List.find?_cons]
    cases hx : f x with
    | error e' => simp [bind, Except.bind, Except.isOk, Except.toBool, hx]
    | ok y =>
      rw [show (!(Except.ok y : Except ε β).isOk) = false from rfl, ← ih]
      cases xs.mapM f <;> simp [bind, Except.bind, pure, Except.pure]

/-- What fails goes on failing, whatever is added at the end. -/
theorem mapM_append_eq_error (h : xs.mapM f = .error e) (zs : List α) :
    (xs ++ zs).mapM f = .error e := by
  rw [List.mapM_append, h]
  rfl

/-- One element more is one result more. -/
theorem mapM_concat (f : α → Except ε β) (xs : List α) (x : α) :
    ((xs ++ [x]).mapM f).toOption =
      (xs.mapM f).toOption.bind fun ys => (f x).toOption.map fun y => ys ++ [y] := by
  rw [List.mapM_append, List.mapM_cons, List.mapM_nil]
  cases xs.mapM f <;> cases f x <;> rfl

end Lists

end Embedder
