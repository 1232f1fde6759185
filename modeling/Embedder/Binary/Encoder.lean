import Embedder.Binary.Primitive
import Embedder.Shape

/-!
What the encoder takes, in terms of its own: the instructions of the binary format with their
operands, each written as its byte and what follows it. The encoder knows of more than one memory
and of memories with 64-bit addresses, so its operands have room for them.
-/

namespace Embedder

namespace Encoder

open Binary (index littleEndian signed unsigned vector)

inductive ValType where
  | i32 | i64 | f32 | f64
  deriving DecidableEq, Repr

def ValType.encode : ValType → List UInt8
  | .i32 => [0x7F]
  | .i64 => [0x7E]
  | .f32 => [0x7D]
  | .f64 => [0x7C]

inductive BlockType where
  | empty
  | result (type : ValType)
  deriving DecidableEq, Repr

def BlockType.encode : BlockType → List UInt8
  | .empty => [0x40]
  | .result type => type.encode

structure MemArg where
  offset : UInt64
  align : UInt32
  memoryIndex : UInt32
  deriving DecidableEq, Repr

/-- The alignment comes before the offset. A bit of it tells that another memory than the first is
meant, and the index of that memory then stands between the two. -/
def MemArg.encode (m : MemArg) : List UInt8 :=
  if m.memoryIndex = 0 then index m.align ++ unsigned m.offset.toNat
  else index (m.align ||| 0x40) ++ index m.memoryIndex ++ unsigned m.offset.toNat

inductive Instruction where
  | unreachable | nop
  | block (type : BlockType) | loop (type : BlockType) | ifOp (type : BlockType) | elseOp | endOp
  | br (label : UInt32) | brIf (label : UInt32)
  | brTable (labels : List UInt32) (otherwise : UInt32)
  | returnOp | call (function : UInt32) | callIndirect (type table : UInt32)
  | drop | select
  | localGet (i : UInt32) | localSet (i : UInt32) | localTee (i : UInt32)
  | globalGet (i : UInt32) | globalSet (i : UInt32)
  | i32Load (arg : MemArg) | i64Load (arg : MemArg)
  | f32Load (arg : MemArg) | f64Load (arg : MemArg)
  | i32Load8S (arg : MemArg) | i32Load8U (arg : MemArg)
  | i32Load16S (arg : MemArg) | i32Load16U (arg : MemArg)
  | i64Load8S (arg : MemArg) | i64Load8U (arg : MemArg)
  | i64Load16S (arg : MemArg) | i64Load16U (arg : MemArg)
  | i64Load32S (arg : MemArg) | i64Load32U (arg : MemArg)
  | i32Store (arg : MemArg) | i64Store (arg : MemArg)
  | f32Store (arg : MemArg) | f64Store (arg : MemArg)
  | i32Store8 (arg : MemArg) | i32Store16 (arg : MemArg)
  | i64Store8 (arg : MemArg) | i64Store16 (arg : MemArg) | i64Store32 (arg : MemArg)
  | memorySize (memory : UInt32) | memoryGrow (memory : UInt32)
  | i32Const (value : BitVec 32) | i64Const (value : BitVec 64)
  | f32Const (bits : BitVec 32) | f64Const (bits : BitVec 64)
  | i32Eqz | i32Eq | i32Ne | i32LtS | i32LtU | i32GtS | i32GtU | i32LeS | i32LeU | i32GeS | i32GeU
  | i64Eqz | i64Eq | i64Ne | i64LtS | i64LtU | i64GtS | i64GtU | i64LeS | i64LeU | i64GeS | i64GeU
  | f32Eq | f32Ne | f32Lt | f32Gt | f32Le | f32Ge
  | f64Eq | f64Ne | f64Lt | f64Gt | f64Le | f64Ge
  | i32Clz | i32Ctz | i32Popcnt | i32Add | i32Sub | i32Mul | i32DivS | i32DivU | i32RemS | i32RemU
  | i32And | i32Or | i32Xor | i32Shl | i32ShrS | i32ShrU | i32Rotl | i32Rotr
  | i64Clz | i64Ctz | i64Popcnt | i64Add | i64Sub | i64Mul | i64DivS | i64DivU | i64RemS | i64RemU
  | i64And | i64Or | i64Xor | i64Shl | i64ShrS | i64ShrU | i64Rotl | i64Rotr
  | f32Abs | f32Neg | f32Ceil | f32Floor | f32Trunc | f32Nearest | f32Sqrt | f32Add | f32Sub
  | f32Mul | f32Div | f32Min | f32Max | f32Copysign
  | f64Abs | f64Neg | f64Ceil | f64Floor | f64Trunc | f64Nearest | f64Sqrt | f64Add | f64Sub
  | f64Mul | f64Div | f64Min | f64Max | f64Copysign
  | i32WrapI64 | i32TruncF32S | i32TruncF32U | i32TruncF64S | i32TruncF64U | i64ExtendI32S
  | i64ExtendI32U | i64TruncF32S | i64TruncF32U | i64TruncF64S | i64TruncF64U | f32ConvertI32S
  | f32ConvertI32U | f32ConvertI64S | f32ConvertI64U | f32DemoteF64 | f64ConvertI32S
  | f64ConvertI32U | f64ConvertI64S | f64ConvertI64U | f64PromoteF32 | i32ReinterpretF32
  | i64ReinterpretF64 | f32ReinterpretI32 | f64ReinterpretI64

/-- Integer constants are signed numbers, float constants their bits, lowest byte first. A branch
table tells how many labels there are before the last. -/
def Instruction.encode : Instruction → List UInt8
  | .unreachable => [0x00]
  | .nop => [0x01]
  | .block type => 0x02 :: type.encode
  | .loop type => 0x03 :: type.encode
  | .ifOp type => 0x04 :: type.encode
  | .elseOp => [0x05]
  | .endOp => [0x0B]
  | .br label => 0x0C :: index label
  | .brIf label => 0x0D :: index label
  | .brTable labels otherwise => 0x0E :: (vector index labels ++ index otherwise)
  | .returnOp => [0x0F]
  | .call function => 0x10 :: index function
  | .callIndirect type table => 0x11 :: (index type ++ index table)
  | .drop => [0x1A]
  | .select => [0x1B]
  | .localGet i => 0x20 :: index i
  | .localSet i => 0x21 :: index i
  | .localTee i => 0x22 :: index i
  | .globalGet i => 0x23 :: index i
  | .globalSet i => 0x24 :: index i
  | .i32Load arg => 0x28 :: arg.encode
  | .i64Load arg => 0x29 :: arg.encode
  | .f32Load arg => 0x2A :: arg.encode
  | .f64Load arg => 0x2B :: arg.encode
  | .i32Load8S arg => 0x2C :: arg.encode
  | .i32Load8U arg => 0x2D :: arg.encode
  | .i32Load16S arg => 0x2E :: arg.encode
  | .i32Load16U arg => 0x2F :: arg.encode
  | .i64Load8S arg => 0x30 :: arg.encode
  | .i64Load8U arg => 0x31 :: arg.encode
  | .i64Load16S arg => 0x32 :: arg.encode
  | .i64Load16U arg => 0x33 :: arg.encode
  | .i64Load32S arg => 0x34 :: arg.encode
  | .i64Load32U arg => 0x35 :: arg.encode
  | .i32Store arg => 0x36 :: arg.encode
  | .i64Store arg => 0x37 :: arg.encode
  | .f32Store arg => 0x38 :: arg.encode
  | .f64Store arg => 0x39 :: arg.encode
  | .i32Store8 arg => 0x3A :: arg.encode
  | .i32Store16 arg => 0x3B :: arg.encode
  | .i64Store8 arg => 0x3C :: arg.encode
  | .i64Store16 arg => 0x3D :: arg.encode
  | .i64Store32 arg => 0x3E :: arg.encode
  | .memorySize memory => 0x3F :: index memory
  | .memoryGrow memory => 0x40 :: index memory
  | .i32Const value => 0x41 :: signed value.toInt
  | .i64Const value => 0x42 :: signed value.toInt
  | .f32Const bits => 0x43 :: littleEndian 4 bits.toNat
  | .f64Const bits => 0x44 :: littleEndian 8 bits.toNat
  | .i32Eqz => [0x45]
  | .i32Eq => [0x46]
  | .i32Ne => [0x47]
  | .i32LtS => [0x48]
  | .i32LtU => [0x49]
  | .i32GtS => [0x4A]
  | .i32GtU => [0x4B]
  | .i32LeS => [0x4C]
  | .i32LeU => [0x4D]
  | .i32GeS => [0x4E]
  | .i32GeU => [0x4F]
  | .i64Eqz => [0x50]
  | .i64Eq => [0x51]
  | .i64Ne => [0x52]
  | .i64LtS => [0x53]
  | .i64LtU => [0x54]
  | .i64GtS => [0x55]
  | .i64GtU => [0x56]
  | .i64LeS => [0x57]
  | .i64LeU => [0x58]
  | .i64GeS => [0x59]
  | .i64GeU => [0x5A]
  | .f32Eq => [0x5B]
  | .f32Ne => [0x5C]
  | .f32Lt => [0x5D]
  | .f32Gt => [0x5E]
  | .f32Le => [0x5F]
  | .f32Ge => [0x60]
  | .f64Eq => [0x61]
  | .f64Ne => [0x62]
  | .f64Lt => [0x63]
  | .f64Gt => [0x64]
  | .f64Le => [0x65]
  | .f64Ge => [0x66]
  | .i32Clz => [0x67]
  | .i32Ctz => [0x68]
  | .i32Popcnt => [0x69]
  | .i32Add => [0x6A]
  | .i32Sub => [0x6B]
  | .i32Mul => [0x6C]
  | .i32DivS => [0x6D]
  | .i32DivU => [0x6E]
  | .i32RemS => [0x6F]
  | .i32RemU => [0x70]
  | .i32And => [0x71]
  | .i32Or => [0x72]
  | .i32Xor => [0x73]
  | .i32Shl => [0x74]
  | .i32ShrS => [0x75]
  | .i32ShrU => [0x76]
  | .i32Rotl => [0x77]
  | .i32Rotr => [0x78]
  | .i64Clz => [0x79]
  | .i64Ctz => [0x7A]
  | .i64Popcnt => [0x7B]
  | .i64Add => [0x7C]
  | .i64Sub => [0x7D]
  | .i64Mul => [0x7E]
  | .i64DivS => [0x7F]
  | .i64DivU => [0x80]
  | .i64RemS => [0x81]
  | .i64RemU => [0x82]
  | .i64And => [0x83]
  | .i64Or => [0x84]
  | .i64Xor => [0x85]
  | .i64Shl => [0x86]
  | .i64ShrS => [0x87]
  | .i64ShrU => [0x88]
  | .i64Rotl => [0x89]
  | .i64Rotr => [0x8A]
  | .f32Abs => [0x8B]
  | .f32Neg => [0x8C]
  | .f32Ceil => [0x8D]
  | .f32Floor => [0x8E]
  | .f32Trunc => [0x8F]
  | .f32Nearest => [0x90]
  | .f32Sqrt => [0x91]
  | .f32Add => [0x92]
  | .f32Sub => [0x93]
  | .f32Mul => [0x94]
  | .f32Div => [0x95]
  | .f32Min => [0x96]
  | .f32Max => [0x97]
  | .f32Copysign => [0x98]
  | .f64Abs => [0x99]
  | .f64Neg => [0x9A]
  | .f64Ceil => [0x9B]
  | .f64Floor => [0x9C]
  | .f64Trunc => [0x9D]
  | .f64Nearest => [0x9E]
  | .f64Sqrt => [0x9F]
  | .f64Add => [0xA0]
  | .f64Sub => [0xA1]
  | .f64Mul => [0xA2]
  | .f64Div => [0xA3]
  | .f64Min => [0xA4]
  | .f64Max => [0xA5]
  | .f64Copysign => [0xA6]
  | .i32WrapI64 => [0xA7]
  | .i32TruncF32S => [0xA8]
  | .i32TruncF32U => [0xA9]
  | .i32TruncF64S => [0xAA]
  | .i32TruncF64U => [0xAB]
  | .i64ExtendI32S => [0xAC]
  | .i64ExtendI32U => [0xAD]
  | .i64TruncF32S => [0xAE]
  | .i64TruncF32U => [0xAF]
  | .i64TruncF64S => [0xB0]
  | .i64TruncF64U => [0xB1]
  | .f32ConvertI32S => [0xB2]
  | .f32ConvertI32U => [0xB3]
  | .f32ConvertI64S => [0xB4]
  | .f32ConvertI64U => [0xB5]
  | .f32DemoteF64 => [0xB6]
  | .f64ConvertI32S => [0xB7]
  | .f64ConvertI32U => [0xB8]
  | .f64ConvertI64S => [0xB9]
  | .f64ConvertI64U => [0xBA]
  | .f64PromoteF32 => [0xBB]
  | .i32ReinterpretF32 => [0xBC]
  | .i64ReinterpretF64 => [0xBD]
  | .f32ReinterpretI32 => [0xBE]
  | .f64ReinterpretI64 => [0xBF]

end Encoder

/-! ### Operands in its terms -/

def ValueType.toEncoder : ValueType → Encoder.ValType
  | .i32 => .i32
  | .i64 => .i64
  | .f32 => .f32
  | .f64 => .f64

/-- The type of a block, by the type of what it leaves. -/
def Encoder.BlockType.ofResult : Option ValueType → Encoder.BlockType
  | none => .empty
  | some t => .result t.toEncoder

/-- Loads and stores go to the first memory. -/
def MemArg.toEncoder (m : MemArg) : Encoder.MemArg := ⟨m.offset.toUInt64, m.align, 0⟩

end Embedder
