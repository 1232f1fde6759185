import Embedder.Proofs.Binary.Primitive
import Embedder.Proofs.Binary.Tables

/-!
Instructions are read back from their bytes. Every shape of immediates is read back whatever
follows, and the tables of bytes agree, so an instruction is, and so is a sequence of them. The only
bound is the reader's: it must count with enough bits for the labels of every branch table. No bound
is left when two sequences are told apart, since there is always a reader that counts far enough for
both.
-/

namespace Embedder

/-- The number of labels that the immediates count, which leaves out the last of a branch table. -/
def Shape.labelCount : (s : Shape) → s.Immediates → Nat
  | .branchTable, b => b.targets.length
  | _, _ => 0

def Instruction.labelCount (i : Instruction) : Nat := i.opcode.shape.labelCount i.immediates

namespace Binary

open Reader (Reads)

/-! ### Immediates -/

theorem width_pos (t : ValueType) : 0 < t.width := by cases t <;> decide

/-- Values take whole bytes. -/
theorem pow_width_eq (t : ValueType) : 2 ^ t.width = 256 ^ (t.width / 8) := by cases t <;> rfl

theorem reads_const (t : ValueType) (bits : BitVec t.width) :
    Reads (readConst t) (const t bits) bits := by
  unfold readConst const
  split
  · have h : bits.toNat < 256 ^ (t.width / 8) := pow_width_eq t ▸ bits.isLt
    refine (reads_littleEndian h).finish ?_
    rw [BitVec.ofNat_toNat, BitVec.setWidth_eq]
  · refine (reads_signed (width_pos t) ⟨bits.le_toInt, bits.toInt_lt⟩).finish ?_
    rw [BitVec.ofInt_toInt]

/-- The byte of a block that leaves nothing is that of no value type. -/
theorem byte_ne_emptyBlock (t : ValueType) : t.byte ≠ 0x40 := by cases t <;> decide

theorem reads_blockType (t? : Option ValueType) :
    Reads readBlockType (immediates .block t?) t? := by
  cases t? with
  | none => exact (Reads.next 0x40).finish (if_pos rfl)
  | some t =>
    refine (Reads.next t.byte).finish ?_
    rw [if_neg (byte_ne_emptyBlock t), lookup_valueTypes]
    rfl

theorem reads_immediates {countWidth : Nat} (s : Shape) (x : s.Immediates)
    (h : s.labelCount x < 2 ^ countWidth) :
    Reads (readImmediates countWidth s) (immediates s x) x := by
  cases s with
  | plain => exact Reads.pure ()
  | block => exact reads_blockType x
  | index => exact reads_index x
  | branchTable =>
    have targets := reads_vector h fun i _ => reads_index i
    exact targets.bind ((reads_index x.otherwise).finish rfl)
  | indirectCall => exact (reads_index x.type).bind ((reads_index x.table).finish rfl)
  | access => exact (reads_index x.align).bind ((reads_index x.offset).finish rfl)
  | const t => exact reads_const t x

theorem reads_instruction {countWidth : Nat} (i : Instruction) (h : i.labelCount < 2 ^ countWidth) :
    Reads (readInstruction countWidth) i.bytes i := by
  rw [i.bytes_eq]
  refine (Reads.next i.opcode.byte).bind ?_
  refine (Reads.ofOption (lookup_opcodes i.opcode)).bind ?_
  exact (reads_immediates i.opcode.shape i.immediates h).finish rfl

/-- The bytes of the field of that name: a count goes before the labels that it counts, and an
alignment before its offset. -/
def fieldBytes : (s : Shape) → s.Immediates → String → List UInt8
  | .plain, _, _ => []
  | .block, none, _ => [0x40]
  | .block, some t, _ => [t.byte]
  | .index _, i, _ => index i
  | .branchTable, b, field =>
    if field = "targets" then unsigned b.targets.length ++ b.targets.flatMap index
    else index b.otherwise
  | .indirectCall, c, field => if field = "ty" then index c.type else index c.table
  | .access _, a, _ => index a.align ++ index a.offset
  | .const t, bits, _ => const t bits

/-- The fields are written in the order in which the shape lists them. -/
theorem immediates_eq_flatMap_fields (s : Shape) (x : s.Immediates) :
    immediates s x = s.fields.flatMap (fieldBytes s x) := by
  cases s with
  | block => cases x <;> rfl
  | _ => simp [immediates, Shape.fields, fieldBytes, vector]

/-! ### Sequences -/

theorem readInstructions_flatMap {countWidth : Nat} {is : List Instruction}
    (h : ∀ i ∈ is, i.labelCount < 2 ^ countWidth) :
    readInstructions countWidth (is.flatMap Instruction.bytes) = some is :=
  Reads.all _ fun i hi => reads_instruction i (h i hi)

/-- There is a width at which every table of a sequence can be counted. -/
theorem exists_countWidth (is : List Instruction) : ∃ w, ∀ i ∈ is, i.labelCount < 2 ^ w := by
  induction is with
  | nil => exact ⟨0, by simp⟩
  | cons i is ih =>
    obtain ⟨w, hw⟩ := ih
    refine ⟨w + i.labelCount, fun j hj => ?_⟩
    rcases List.mem_cons.1 hj with rfl | hj
    · exact Nat.lt_of_lt_of_le Nat.lt_two_pow_self (Nat.pow_le_pow_right (by decide) (by omega))
    · exact Nat.lt_of_lt_of_le (hw j hj) (Nat.pow_le_pow_right (by decide) (by omega))

theorem flatMap_bytes_injective {is js : List Instruction}
    (h : is.flatMap Instruction.bytes = js.flatMap Instruction.bytes) : is = js := by
  obtain ⟨w, hw⟩ := exists_countWidth (is ++ js)
  have hi := readInstructions_flatMap fun i m => hw i (List.mem_append_left js m)
  have hj := readInstructions_flatMap fun j m => hw j (List.mem_append_right is m)
  rw [h, hj] at hi
  exact (Option.some.inj hi).symm

/-- Instructions are read back from their bytes to the last one, immediates bit for bit, by every
reader that can count the labels of their tables. The first byte of each finds its opcode, its
fields follow in the order of their names, and no other sequence has the same bytes. -/
theorem instructions_uniquely_readable (is : List Instruction) :
    (∀ w, (∀ i ∈ is, i.labelCount < 2 ^ w) →
      readInstructions w (is.flatMap Instruction.bytes) = some is) ∧
    (∀ i ∈ is, ∃ b rest, i.bytes = b :: rest ∧ Opcode.ofByte b = .ok i.opcode ∧
      rest = i.opcode.shape.fields.flatMap (fieldBytes i.opcode.shape i.immediates)) ∧
    ∀ js, js.flatMap Instruction.bytes = is.flatMap Instruction.bytes → js = is := by
  refine ⟨fun w h => readInstructions_flatMap h, fun i _ => ?_,
    fun js h => flatMap_bytes_injective h⟩
  refine ⟨i.opcode.byte, immediates i.opcode.shape i.immediates, i.bytes_eq, ?_, ?_⟩
  · rw [Opcode.ofByte, Opcode.ofByte?_byte]
  · exact immediates_eq_flatMap_fields i.opcode.shape i.immediates

/-- At the sign bit of a constant, at the widest label and at the payload of a NaN. -/
theorem instructions_uniquely_readable_edges :
    let is : List Instruction := [⟨.brTable, ⟨[127, 128], 0xFFFFFFFF⟩⟩,
      ⟨.i32Const, (-64 : BitVec 32)⟩, ⟨.i64Const, (64 : BitVec 64)⟩,
      ⟨.f32Const, (0xFF800001 : BitVec 32)⟩, ⟨.callIndirect, ⟨3, 1⟩⟩]
    (∀ i ∈ is, i.labelCount < 2 ^ 32) ∧
      readInstructions 32 (is.flatMap Instruction.bytes) = some is := by
  intro is
  have h : ∀ i ∈ is, i.labelCount < 2 ^ 32 := by decide
  exact ⟨h, (instructions_uniquely_readable is).1 32 h⟩

example : (⟨.brTable, ⟨[127, 128], 0xFFFFFFFF⟩⟩ : Instruction).bytes =
    [0x0E, 2, 0x7F, 0x80, 0x01, 0xFF, 0xFF, 0xFF, 0xFF, 0x0F] := by cbv

end Binary

end Embedder
