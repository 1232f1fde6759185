import Embedder.Proofs.Text.Instruction
import Mathlib.Data.List.Forall2

/-!
When two sequences of instructions have one text. An instruction is read off the front of its
sequence, and that tells where its tokens end; so the sequences agree token by token, and what is
left is to say which immediates of one shape have the same tokens. Those are equal, but for the
memory, which is not written, and for the largest alignments, which are written alike.
-/

namespace Embedder

/-- The immediates are equal as far as their text goes: any memory is like any other, and any
exponent of an alignment from 63 on is like any other of these. -/
def Shape.Alike : (s : Shape) → s.Immediates → s.Immediates → Prop
  | .index .memories, _, _ => True
  | .access _, a, b =>
    a.offset = b.offset ∧ (a.align = b.align ∨ 63 ≤ a.align.toNat ∧ 63 ≤ b.align.toNat)
  | _, x, y => x = y

/-- One opcode, and immediates that are alike. -/
inductive Instruction.Alike : Instruction → Instruction → Prop
  | mk {op : Opcode} {x y : op.shape.Immediates} : op.shape.Alike x y → Alike ⟨op, x⟩ ⟨op, y⟩

namespace Text

/-! ### Immediates -/

/-- An exponent of zero is not written, so it is like no other. -/
theorem align_eq_iff {a b : MemArg} : align a = align b ↔
    a.align = b.align ∨ maxAlign ≤ a.align.toNat ∧ maxAlign ≤ b.align.toNat := by
  have zero (m : MemArg) : m.align = 0 ↔ m.align.toNat = 0 := UInt32.toNat_inj.symm
  simp only [align, zero, ← UInt32.toNat_inj, maxAlign]
  by_cases ha : a.align.toNat = 0
  · by_cases hb : b.align.toNat = 0
    · simp [ha, hb]
    · rw [if_pos ha, if_neg hb]
      simp only [reduceCtorEq, false_iff]
      omega
  · by_cases hb : b.align.toNat = 0
    · rw [if_neg ha, if_pos hb]
      simp only [reduceCtorEq, false_iff]
      omega
    · rw [if_neg ha, if_neg hb, List.singleton_inj, Token.keyed_inj, Nat.one_shiftLeft,
        Nat.one_shiftLeft, Nat.pow_right_inj (Nat.le_refl 2)]
      omega

theorem shown_eq_of_immediates_eq {s : Shape} {x y : s.Immediates}
    (h : immediates s x = immediates s y) : s.shown x = s.shown y := by
  have ends : Boundary [] := fun _ h => nomatch h
  have read := readImmediates_append s x ends
  rw [h, readImmediates_append s y ends, Option.some.injEq, Prod.mk.injEq] at read
  exact read.1.symm

/-- Reading leaves open only what the text does not show. An alignment that is read could still be
one that was not written, so it is compared in the text itself. -/
theorem alike_of_immediates_eq (s : Shape) {x y : s.Immediates}
    (h : immediates s x = immediates s y) : s.Alike x y := by
  have shown := shown_eq_of_immediates_eq h
  cases s with
  | index space =>
    cases space with
    | memories => trivial
    | _ => exact shown
  | access naturalAlign =>
    have same : x.offset = y.offset := (MemArg.mk.inj shown).1
    have first : offset x = offset y := by rw [offset, same, offset]
    rw [immediates, immediates, first, List.append_cancel_left_eq] at h
    exact ⟨same, align_eq_iff.1 h⟩
  | _ => exact shown

theorem immediates_eq_of_alike (s : Shape) {x y : s.Immediates} (h : s.Alike x y) :
    immediates s x = immediates s y := by
  cases s with
  | index space =>
    cases space with
    | memories => rfl
    | _ => exact congrArg _ h
  | access naturalAlign =>
    obtain ⟨same, h⟩ := h
    have first : offset x = offset y := by rw [offset, same, offset]
    rw [immediates, immediates, first, align_eq_iff.2 h]
  | _ => exact congrArg _ h

/-! ### Instructions -/

theorem tokens_eq_iff {i j : Instruction} : i.tokens = j.tokens ↔ i.Alike j := by
  obtain ⟨op, x⟩ := i
  obtain ⟨op', y⟩ := j
  constructor
  · intro h
    obtain ⟨word, rest⟩ := List.cons_eq_cons.1 h
    have mnemonic : op.mnemonic = op'.mnemonic := Token.word.inj word
    have same : some op = some op' := by
      rw [← op.ofMnemonic?_mnemonic, mnemonic, op'.ofMnemonic?_mnemonic]
    cases same
    exact .mk (alike_of_immediates_eq op.shape rest)
  · rintro ⟨alike⟩
    exact congrArg (_ :: ·) (immediates_eq_of_alike op.shape alike)

/-- Where the tokens of an instruction end is told by reading it. -/
theorem tokens_append_inj {i j : Instruction} {rest rest' : List Token} (h : Boundary rest)
    (h' : Boundary rest') (e : i.tokens ++ rest = j.tokens ++ rest') :
    i.tokens = j.tokens ∧ rest = rest' := by
  have read := readInstruction_append i h
  rw [e, readInstruction_append j h', Option.some.injEq, Prod.mk.injEq] at read
  obtain ⟨-, rfl⟩ := read
  exact ⟨List.append_cancel_right e, rfl⟩

/-- So a sequence of tokens splits into instructions in one way at most. -/
theorem flatMap_tokens_eq_iff : ∀ {is js : List Instruction},
    is.flatMap Instruction.tokens = js.flatMap Instruction.tokens ↔
      List.Forall₂ Instruction.Alike is js
  | [], [] => by simp
  | [], j :: js => by simp [Instruction.tokens]
  | i :: is, [] => by simp [Instruction.tokens]
  | i :: is, j :: js => by
    rw [List.flatMap_cons, List.flatMap_cons, List.forall₂_cons, ← tokens_eq_iff,
      ← flatMap_tokens_eq_iff]
    constructor
    · exact tokens_append_inj (boundary_flatMap is) (boundary_flatMap js)
    · rintro ⟨first, rest⟩
      rw [first, rest]

/-! ### Spaces -/

/-- Parentheses are closed within the immediates. -/
theorem getLast?_immediates_ne_opening (s : Shape) (x : s.Immediates) :
    (immediates s x).getLast? ≠ some .opening := by
  cases s with
  | block => cases x <;> simp [immediates, Token.group]
  | index space => cases space <;> simp [immediates, Token.index]
  | indirectCall => simp [immediates, Token.group, List.getLast?_cons]
  | access naturalAlign =>
    simp only [immediates, offset, align]
    split <;> split <;> simp
  | _ => simp [immediates, Token.index]

theorem apart_tokens : Token.Apart Instruction.tokens := by
  intro i j
  -- the mnemonic of the next is a word, so only an opening parenthesis before it would take the
  -- space
  let inner := immediates i.opcode.shape i.immediates
  have last : i.tokens.getLast? = some (inner.getLast?.getD (.word i.mnemonic)) :=
    List.getLast?_cons
  refine ⟨_, .word j.mnemonic, _, last, rfl, ?_⟩
  cases h : inner.getLast? with
  | none => rfl
  | some t =>
    cases t with
    | opening => exact absurd h (getLast?_immediates_ne_opening _ _)
    | _ => rfl

end Text

namespace Instruction

/-- The text of instructions is the text of each, with a space between two. -/
theorem watAll_eq_intercalate (is : List Instruction) : watAll is = " ".intercalate (is.map wat) :=
  Text.Token.write_flatMap_eq_intercalate Text.apart_tokens is

theorem watAll_eq_iff {is js : List Instruction} :
    watAll is = watAll js ↔ List.Forall₂ Alike is js := by
  rw [watAll, watAll, String.ofList_inj, Text.Token.write_inj (Text.wellFormed_flatMap is)
    (Text.wellFormed_flatMap js), Text.flatMap_tokens_eq_iff]

theorem wat_eq_iff {i j : Instruction} : i.wat = j.wat ↔ i.Alike j := by
  rw [wat_eq_watAll, wat_eq_watAll, watAll_eq_iff, List.forall₂_cons]
  simp

/-- The text of any instructions is that of each with spaces between, and loses nothing but which
memory an instruction is about and how large an alignment from an exponent of 63 on is: two
sequences have one text just when they are of the same length and alike at every place, opcodes and
immediates, constants bit for bit. So a text is split into those of single instructions in one way
only. -/
theorem text_tells_instructions (is : List Instruction) :
    watAll is = " ".intercalate (is.map wat) ∧
    ∀ js, (watAll js = watAll is ↔ List.Forall₂ Alike js is) ∧
      (watAll js = watAll is → js.map wat = is.map wat) := by
  refine ⟨watAll_eq_intercalate is, fun js => ⟨watAll_eq_iff, fun h => ?_⟩⟩
  rw [← List.forall₂_eq_eq_eq, List.forall₂_map_left_iff, List.forall₂_map_right_iff]
  exact (watAll_eq_iff.1 h).imp fun _ _ => wat_eq_iff.2

end Instruction

end Embedder
