import Embedder.Proofs.Binary.Instruction
import Embedder.Proofs.Text.Instruction

/-!
The text and the bytes of an instruction are of the same instruction, with one exception. Both are
read back, the bytes as the instruction itself and the text as what it shows. Within the limits of
the format that is the same but for the alignment of a load or store, which the text leaves out
where it is zero, and what is left out is read as the natural one.
-/

namespace Embedder

/-- The limits of the format: one memory, and no alignment beyond the natural one. -/
def Shape.InLimits : (s : Shape) → s.Immediates → Prop
  | .index .memories, i => i = (0 : UInt32)
  | .access naturalAlign, a => a.align.toNat ≤ naturalAlign
  | _, _ => True

/-- The alignment is zero, and the natural one is not. -/
def Shape.HidesAlign : (s : Shape) → s.Immediates → Prop
  | .access naturalAlign, a => a.align = 0 ∧ naturalAlign ≠ 0
  | _, _ => False

theorem Opcode.naturalAlign_le_of_mem_all : ∀ op ∈ all,
    (match op.shape with
      | .access naturalAlign => decide (naturalAlign ≤ 3)
      | _ => true) = true := by
  decide +kernel

theorem Opcode.naturalAlign_le {op : Opcode} {n : Nat} (h : op.shape = .access n) : n ≤ 3 := by
  have le := naturalAlign_le_of_mem_all op op.mem_all
  rw [h] at le
  exact of_decide_eq_true le

theorem Text.shownAlign_eq_iff {n : Nat} (le : n ≤ 3) {a : MemArg} (limit : a.align.toNat ≤ n) :
    UInt32.ofNat (shownAlign n a) = a.align ↔ ¬ (a.align = 0 ∧ n ≠ 0) := by
  rw [shownAlign]
  split
  · rename_i zero
    have lt : n < UInt32.size := Nat.lt_of_le_of_lt le (by decide)
    rw [zero, ← UInt32.toNat_inj, UInt32.toNat_ofNat_of_lt' lt]
    simp
  · rename_i nonzero
    have min : min a.align.toNat maxAlign = a.align.toNat := by
      rw [maxAlign]
      omega
    rw [min, UInt32.ofNat_toNat]
    simp [nonzero]

/-- Within the limits only a hidden alignment is shown as another. -/
theorem Shape.shown_eq_iff {s : Shape} (bound : ∀ n, s = .access n → n ≤ 3) {x : s.Immediates}
    (limits : s.InLimits x) : s.shown x = x ↔ ¬ s.HidesAlign x := by
  cases s with
  | index space =>
    cases space with
    | memories => exact ⟨fun _ => id, fun _ => limits.symm⟩
    | _ => exact ⟨fun _ => id, fun _ => rfl⟩
  | access n =>
    have align := Text.shownAlign_eq_iff (bound n rfl) limits
    constructor
    · intro e
      exact align.1 (congrArg MemArg.align e)
    · intro shows
      show (⟨x.offset, UInt32.ofNat (Text.shownAlign n x)⟩ : MemArg) = x
      rw [align.2 shows]
  | _ => exact ⟨fun _ => id, fun _ => rfl⟩

namespace Instruction

def InLimits (i : Instruction) : Prop := i.opcode.shape.InLimits i.immediates

def HidesAlign (i : Instruction) : Prop := i.opcode.shape.HidesAlign i.immediates

theorem shown_eq_iff {i : Instruction} (h : i.InLimits) : i.shown = i ↔ ¬ i.HidesAlign := by
  obtain ⟨op, x⟩ := i
  rw [shown, HidesAlign, ← Shape.shown_eq_iff (fun _ => Opcode.naturalAlign_le) h]
  exact ⟨fun e => eq_of_heq (Instruction.mk.inj e).2, fun e => by rw [e]⟩

theorem readInstructions_bytes {i : Instruction} {w : Nat} (h : i.labelCount < 2 ^ w) :
    Binary.readInstructions w i.bytes = some [i] := by
  have all : ∀ j ∈ [i], j.labelCount < 2 ^ w := List.forall_mem_singleton.2 h
  have read := Binary.readInstructions_flatMap all
  rwa [List.flatMap_singleton] at read

/-- The text and the bytes of an instruction are both read as one instruction, and as the same one
unless its alignment is hidden: a load or store of more than one byte that promises no alignment has
the text of one that promises the natural. -/
theorem text_agrees_with_binary_iff (i : Instruction) (h : i.InLimits) {w : Nat}
    (hw : i.labelCount < 2 ^ w) :
    ofWat? i.wat = some [i.shown] ∧ Binary.readInstructions w i.bytes = some [i] ∧
      (ofWat? i.wat = Binary.readInstructions w i.bytes ↔ ¬ i.HidesAlign) := by
  have text := i.ofWat?_wat
  have bytes := readInstructions_bytes hw
  refine ⟨text, bytes, ?_⟩
  rw [text, bytes, ← shown_eq_iff h]
  simp

/-- At the natural alignment, with an offset. -/
theorem text_agrees_with_binary_iff_natural :
    let i : Instruction := ⟨.i64Load, ⟨8, 3⟩⟩
    i.InLimits ∧ i.labelCount < 2 ^ 32 ∧
      ofWat? i.wat = Binary.readInstructions 32 i.bytes := by
  intro i
  have limits : i.InLimits := Nat.le_refl 3
  have count : i.labelCount < 2 ^ 32 := by decide
  have shows : ¬ i.HidesAlign := by
    rintro ⟨zero, -⟩
    exact absurd zero (by decide)
  obtain ⟨-, -, same⟩ := text_agrees_with_binary_iff i limits count
  exact ⟨limits, count, same.2 shows⟩

/-- A load of four bytes at any address comes back from its text as one at multiples of four. -/
theorem text_of_hidden_align :
    let i : Instruction := ⟨.i32Load, ⟨0, 0⟩⟩
    i.InLimits ∧ ofWat? i.wat = some [⟨.i32Load, ⟨0, 2⟩⟩] ∧
      Binary.readInstructions 32 i.bytes = some [⟨.i32Load, ⟨0, 0⟩⟩] ∧
      ofWat? i.wat ≠ Binary.readInstructions 32 i.bytes := by
  intro i
  have shown : i.shown = ⟨.i32Load, ⟨0, 2⟩⟩ := by decide
  have text : ofWat? i.wat = some [⟨.i32Load, ⟨0, 2⟩⟩] := by rw [ofWat?_wat, shown]
  have bytes : Binary.readInstructions 32 i.bytes = some [i] := readInstructions_bytes (by decide)
  refine ⟨Nat.zero_le 2, text, bytes, ?_⟩
  rw [text, bytes]
  decide

end Instruction

end Embedder
