import Embedder.Reader

/-!
What it means that a reader undoes a writer: in front of anything else it takes just what was
written and gives back what was meant. The property passes through sequencing, so a format of many
parts is read back part by part.
-/

namespace Embedder.Reader

/-- In front of anything, `written` reads as `x` and nothing more is taken. -/
def Reads (read : Reader σ α) (written : List σ) (x : α) : Prop :=
  ∀ rest, read (written ++ rest) = some (x, rest)

theorem Reads.pure (x : α) : Reads (Pure.pure x : Reader σ α) [] x := fun _ => rfl

theorem Reads.next (s : σ) : Reads (Reader.next : Reader σ σ) [s] s := fun _ => rfl

theorem Reads.ofOption {x? : Option α} {x : α} (h : x? = some x) :
    Reads (Reader.ofOption x? : Reader σ α) [] x := by
  subst h
  exact fun _ => rfl

theorem Reads.ofGuard {p : Prop} [Decidable p] (h : p) : Reads (guard p : Reader σ Unit) [] () := by
  unfold guard
  rw [if_pos h]
  exact Reads.pure ()

/-- What follows goes on where a reader stopped. -/
theorem bind_of_read {read : Reader σ α} {next : α → Reader σ β} {input rest : List σ} {x : α}
    (h : read input = some (x, rest)) : (read >>= next) input = next x rest := by
  show (read input).bind _ = _
  rw [h, Option.bind_some]

/-- Where one reader refuses, the other is tried. -/
theorem orElse_of_refused {read other : Reader σ α} {input : List σ} (h : read input = none) :
    (read <|> other) input = other input := by
  show (read input <|> other input) = _
  rw [h]
  rfl

theorem Reads.bind {read : Reader σ α} {next : α → Reader σ β} {written after : List σ} {x : α}
    {y : β} (h : Reads read written x) (h' : Reads (next x) after y) :
    Reads (read >>= next) (written ++ after) y := by
  intro rest
  rw [List.append_assoc, bind_of_read (h (after ++ rest))]
  exact h' rest

/-- What was read may still be put into another form, as long as nothing more is taken. -/
theorem Reads.finish {read : Reader σ α} {next : α → Reader σ β} {written : List σ} {x : α} {y : β}
    (h : Reads read written x) (e : next x = Pure.pure y) : Reads (read >>= next) written y := by
  rw [← List.append_nil written]
  refine h.bind ?_
  rw [e]
  exact Reads.pure y

/-- Things written one after the other are read back one after the other, to the end. -/
theorem Reads.all {read : Reader σ α} (h : read.Shrinks) {write : α → List σ} {xs : List α}
    (hr : ∀ x ∈ xs, Reads read (write x) x) : read.all h (xs.flatMap write) = some xs := by
  induction xs with
  | nil => exact all_nil read h
  | cons x xs ih =>
    have hx := hr x List.mem_cons_self (xs.flatMap write)
    rw [List.flatMap_cons, all_of_read h hx, ih fun y hy => hr y (List.mem_cons_of_mem x hy)]
    rfl

/-- Symbols of a class in front of one that is not of it are taken together. -/
theorem takeWhile_dropWhile_append {p : σ → Bool} {taken rest : List σ}
    (h : ∀ s ∈ taken, p s = true) (stop : ∀ s ∈ rest.head?, p s = false) :
    (taken ++ rest).takeWhile p = taken ∧ (taken ++ rest).dropWhile p = rest := by
  rw [List.takeWhile_append_of_pos h, List.dropWhile_append_of_pos h]
  cases rest with
  | nil => exact ⟨List.append_nil taken, rfl⟩
  | cons s rest =>
    have hs := stop s rfl
    rw [List.takeWhile_cons, List.dropWhile_cons, hs]
    exact ⟨List.append_nil taken, rfl⟩

end Embedder.Reader
