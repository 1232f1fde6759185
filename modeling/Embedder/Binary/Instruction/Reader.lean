import Embedder.Binary.Primitive
import Embedder.Instruction

/-!
Reading instructions by the grammar of the binary format. The byte that an instruction begins with
tells its opcode, and the opcode what is read after it. The table of bytes is that of the grammar:
nothing here is taken from the catalog but the shapes of the immediates. How many bits the number of
labels in a branch table may have is left to the caller; the binary format says 32.
-/

namespace Embedder.Binary

/-- The opcode that each byte begins an instruction of. -/
def opcodes : List (UInt8 × Opcode) :=
  [(0x00, .unreachable), (0x01, .nop), (0x02, .block), (0x03, .loop), (0x04, .ifOp),
   (0x05, .elseOp), (0x0B, .endOp), (0x0C, .br), (0x0D, .brIf), (0x0E, .brTable),
   (0x0F, .returnOp), (0x10, .call), (0x11, .callIndirect),
   (0x1A, .drop), (0x1B, .select),
   (0x20, .localGet), (0x21, .localSet), (0x22, .localTee), (0x23, .globalGet), (0x24, .globalSet),
   (0x28, .i32Load), (0x29, .i64Load), (0x2A, .f32Load), (0x2B, .f64Load), (0x2C, .i32Load8S),
   (0x2D, .i32Load8U), (0x2E, .i32Load16S), (0x2F, .i32Load16U), (0x30, .i64Load8S),
   (0x31, .i64Load8U), (0x32, .i64Load16S), (0x33, .i64Load16U), (0x34, .i64Load32S),
   (0x35, .i64Load32U), (0x36, .i32Store), (0x37, .i64Store), (0x38, .f32Store), (0x39, .f64Store),
   (0x3A, .i32Store8), (0x3B, .i32Store16), (0x3C, .i64Store8), (0x3D, .i64Store16),
   (0x3E, .i64Store32),
   (0x3F, .memorySize), (0x40, .memoryGrow),
   (0x41, .i32Const), (0x42, .i64Const), (0x43, .f32Const), (0x44, .f64Const),
   (0x45, .i32Eqz), (0x46, .i32Eq), (0x47, .i32Ne), (0x48, .i32LtS), (0x49, .i32LtU),
   (0x4A, .i32GtS), (0x4B, .i32GtU), (0x4C, .i32LeS), (0x4D, .i32LeU), (0x4E, .i32GeS),
   (0x4F, .i32GeU),
   (0x50, .i64Eqz), (0x51, .i64Eq), (0x52, .i64Ne), (0x53, .i64LtS), (0x54, .i64LtU),
   (0x55, .i64GtS), (0x56, .i64GtU), (0x57, .i64LeS), (0x58, .i64LeU), (0x59, .i64GeS),
   (0x5A, .i64GeU),
   (0x5B, .f32Eq), (0x5C, .f32Ne), (0x5D, .f32Lt), (0x5E, .f32Gt), (0x5F, .f32Le), (0x60, .f32Ge),
   (0x61, .f64Eq), (0x62, .f64Ne), (0x63, .f64Lt), (0x64, .f64Gt), (0x65, .f64Le), (0x66, .f64Ge),
   (0x67, .i32Clz), (0x68, .i32Ctz), (0x69, .i32Popcnt), (0x6A, .i32Add), (0x6B, .i32Sub),
   (0x6C, .i32Mul), (0x6D, .i32DivS), (0x6E, .i32DivU), (0x6F, .i32RemS), (0x70, .i32RemU),
   (0x71, .i32And), (0x72, .i32Or), (0x73, .i32Xor), (0x74, .i32Shl), (0x75, .i32ShrS),
   (0x76, .i32ShrU), (0x77, .i32Rotl), (0x78, .i32Rotr),
   (0x79, .i64Clz), (0x7A, .i64Ctz), (0x7B, .i64Popcnt), (0x7C, .i64Add), (0x7D, .i64Sub),
   (0x7E, .i64Mul), (0x7F, .i64DivS), (0x80, .i64DivU), (0x81, .i64RemS), (0x82, .i64RemU),
   (0x83, .i64And), (0x84, .i64Or), (0x85, .i64Xor), (0x86, .i64Shl), (0x87, .i64ShrS),
   (0x88, .i64ShrU), (0x89, .i64Rotl), (0x8A, .i64Rotr),
   (0x8B, .f32Abs), (0x8C, .f32Neg), (0x8D, .f32Ceil), (0x8E, .f32Floor), (0x8F, .f32Trunc),
   (0x90, .f32Nearest), (0x91, .f32Sqrt), (0x92, .f32Add), (0x93, .f32Sub), (0x94, .f32Mul),
   (0x95, .f32Div), (0x96, .f32Min), (0x97, .f32Max), (0x98, .f32Copysign),
   (0x99, .f64Abs), (0x9A, .f64Neg), (0x9B, .f64Ceil), (0x9C, .f64Floor), (0x9D, .f64Trunc),
   (0x9E, .f64Nearest), (0x9F, .f64Sqrt), (0xA0, .f64Add), (0xA1, .f64Sub), (0xA2, .f64Mul),
   (0xA3, .f64Div), (0xA4, .f64Min), (0xA5, .f64Max), (0xA6, .f64Copysign),
   (0xA7, .i32WrapI64), (0xA8, .i32TruncF32S), (0xA9, .i32TruncF32U), (0xAA, .i32TruncF64S),
   (0xAB, .i32TruncF64U), (0xAC, .i64ExtendI32S), (0xAD, .i64ExtendI32U), (0xAE, .i64TruncF32S),
   (0xAF, .i64TruncF32U), (0xB0, .i64TruncF64S), (0xB1, .i64TruncF64U), (0xB2, .f32ConvertI32S),
   (0xB3, .f32ConvertI32U), (0xB4, .f32ConvertI64S), (0xB5, .f32ConvertI64U),
   (0xB6, .f32DemoteF64), (0xB7, .f64ConvertI32S), (0xB8, .f64ConvertI32U),
   (0xB9, .f64ConvertI64S), (0xBA, .f64ConvertI64U), (0xBB, .f64PromoteF32),
   (0xBC, .i32ReinterpretF32), (0xBD, .i64ReinterpretF64), (0xBE, .f32ReinterpretI32),
   (0xBF, .f64ReinterpretI64)]

/-- Integer constants are signed numbers, float constants their bits. -/
def readConst (t : ValueType) : Reader UInt8 (BitVec t.width) :=
  if t.isFloat then do
    return BitVec.ofNat t.width (← readLittleEndian (t.width / 8))
  else do
    return BitVec.ofInt t.width (← readSigned t.width)

/-- The type of a block is a byte: that of a block that leaves nothing, or of a value type. -/
def readBlockType : Reader UInt8 (Option ValueType) := do
  let b ← Reader.next
  if b = 0x40 then return none
  else Reader.ofOption ((valueTypes.lookup b).map some)

/-- A branch table is a vector and one label more, and the alignment of a load or store comes before
its offset. -/
def readImmediates (countWidth : Nat) : (s : Shape) → Reader UInt8 s.Immediates
  | .plain => pure ()
  | .block => readBlockType
  | .index _ => readIndex
  | .branchTable => do
    let targets ← readVector countWidth readIndex
    let otherwise ← readIndex
    return ⟨targets, otherwise⟩
  | .indirectCall => do
    let type ← readIndex
    let table ← readIndex
    return ⟨type, table⟩
  | .access _ => do
    let align ← readIndex
    let offset ← readIndex
    return ⟨offset, align⟩
  | .const t => readConst t

def readInstruction (countWidth : Nat) : Reader UInt8 Instruction := do
  let op ← Reader.ofOption (opcodes.lookup (← Reader.next))
  return ⟨op, ← readImmediates countWidth op.shape⟩

/-! ### Sequences -/

theorem consumes_readImmediates (countWidth : Nat) (s : Shape) :
    (readImmediates countWidth s).Consumes := by
  have index := consumes_readIndex
  cases s with
  | plain => exact .pure ()
  | block =>
    refine Reader.shrinks_next.consumes.bind fun b => ?_
    split
    · exact .pure none
    · exact .ofOption _
  | index => exact index
  | branchTable => exact (consumes_readVector _ index).bind fun _ => index.bind fun _ => .pure _
  | indirectCall => exact index.bind fun _ => index.bind fun _ => .pure _
  | access => exact index.bind fun _ => index.bind fun _ => .pure _
  | const t =>
    simp only [readImmediates, readConst]
    split
    · exact (consumes_readLittleEndian _).bind fun _ => .pure _
    · exact (consumes_readSigned _).bind fun _ => .pure _

/-- An instruction takes a byte at least. -/
theorem shrinks_readInstruction (countWidth : Nat) : (readInstruction countWidth).Shrinks :=
  Reader.shrinks_next.bind fun _ => (Reader.Consumes.ofOption _).bind fun _ =>
    (consumes_readImmediates _ _).bind fun _ => .pure _

/-- Instructions to the last byte. -/
def readInstructions (countWidth : Nat) (bytes : List UInt8) : Option (List Instruction) :=
  (readInstruction countWidth).all (shrinks_readInstruction countWidth) bytes

end Embedder.Binary
