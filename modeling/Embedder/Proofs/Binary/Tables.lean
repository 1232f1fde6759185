import Embedder.Binary.Instruction
import Embedder.Binary.Instruction.Reader
import Embedder.Opcode.Lemmas

/-!
Three tables tell the byte of an instruction: the catalog of opcodes, the encoder, and the grammar
that bytes are read by. None of them is made of another, and so it is with the bytes of value types.
Here they agree: the encoder writes the byte that the catalog has, with the immediates after it in
the order of their shape, and the grammar takes that byte for the same opcode.
-/

namespace Embedder

namespace Binary

/-! ### Value types -/

theorem encode_toEncoder (t : ValueType) : t.toEncoder.encode = [t.byte] := by cases t <;> rfl

theorem lookup_valueTypes (t : ValueType) : valueTypes.lookup t.byte = some t := by cases t <;> rfl

/-! ### Immediates -/

/-- Integer constants are signed numbers, float constants their bits. -/
def const (t : ValueType) (bits : BitVec t.width) : List UInt8 :=
  if t.isFloat then littleEndian (t.width / 8) bits.toNat else signed bits.toInt

/-- What follows the byte of an instruction, by the shape of its immediates. -/
def immediates : (s : Shape) → s.Immediates → List UInt8
  | .plain, _ => []
  | .block, none => [0x40]
  | .block, some t => [t.byte]
  | .index _, i => index i
  | .branchTable, b => vector index b.targets ++ index b.otherwise
  | .indirectCall, c => index c.type ++ index c.table
  | .access _, a => index a.align ++ index a.offset
  | .const t, bits => const t bits

theorem encode_ofResult (t? : Option ValueType) :
    (Encoder.BlockType.ofResult t?).encode = immediates .block t? := by
  cases t? with
  | none => rfl
  | some t => exact encode_toEncoder t

end Binary

/-! ### Instructions -/

/-- The encoder writes the byte of the catalog, and then the immediates. -/
theorem Instruction.bytes_eq (i : Instruction) :
    i.bytes = i.opcode.byte :: Binary.immediates i.opcode.shape i.immediates := by
  obtain ⟨op, x⟩ := i
  -- one case for each arm of the conversion; the type of a block is the only operand that has to be
  -- taken apart before its bytes are seen to be the same
  cases op
  case block | loop | ifOp => exact congrArg (_ :: ·) (Binary.encode_ofResult x)
  all_goals rfl

/-- The grammar has for every opcode the byte of the catalog. -/
theorem Binary.lookup_opcodes (op : Opcode) : opcodes.lookup op.byte = some op := by
  have all : Opcode.all.map (fun op => opcodes.lookup op.byte) = Opcode.all.map some := by
    decide +kernel
  exact List.map_inj_left.1 all op op.mem_all

end Embedder
