import Embedder.Binary.Encoder
import Embedder.Instruction

/-!
Instructions in the terms of the encoder, and so in the binary format: to each opcode an instruction
of the encoder, with the immediates for operands.
-/

namespace Embedder

namespace Instruction

def toEncoder : Instruction → Encoder.Instruction
  | ⟨.unreachable, _⟩ => .unreachable
  | ⟨.nop, _⟩ => .nop
  | ⟨.block, type⟩ => .block (.ofResult type)
  | ⟨.loop, type⟩ => .loop (.ofResult type)
  | ⟨.ifOp, type⟩ => .ifOp (.ofResult type)
  | ⟨.elseOp, _⟩ => .elseOp
  | ⟨.endOp, _⟩ => .endOp
  | ⟨.br, label⟩ => .br label
  | ⟨.brIf, label⟩ => .brIf label
  | ⟨.brTable, b⟩ => .brTable b.targets b.otherwise
  | ⟨.returnOp, _⟩ => .returnOp
  | ⟨.call, function⟩ => .call function
  | ⟨.callIndirect, c⟩ => .callIndirect c.type c.table
  | ⟨.drop, _⟩ => .drop
  | ⟨.select, _⟩ => .select
  | ⟨.localGet, i⟩ => .localGet i
  | ⟨.localSet, i⟩ => .localSet i
  | ⟨.localTee, i⟩ => .localTee i
  | ⟨.globalGet, i⟩ => .globalGet i
  | ⟨.globalSet, i⟩ => .globalSet i
  | ⟨.i32Load, arg⟩ => .i32Load arg.toEncoder
  | ⟨.i64Load, arg⟩ => .i64Load arg.toEncoder
  | ⟨.f32Load, arg⟩ => .f32Load arg.toEncoder
  | ⟨.f64Load, arg⟩ => .f64Load arg.toEncoder
  | ⟨.i32Load8S, arg⟩ => .i32Load8S arg.toEncoder
  | ⟨.i32Load8U, arg⟩ => .i32Load8U arg.toEncoder
  | ⟨.i32Load16S, arg⟩ => .i32Load16S arg.toEncoder
  | ⟨.i32Load16U, arg⟩ => .i32Load16U arg.toEncoder
  | ⟨.i64Load8S, arg⟩ => .i64Load8S arg.toEncoder
  | ⟨.i64Load8U, arg⟩ => .i64Load8U arg.toEncoder
  | ⟨.i64Load16S, arg⟩ => .i64Load16S arg.toEncoder
  | ⟨.i64Load16U, arg⟩ => .i64Load16U arg.toEncoder
  | ⟨.i64Load32S, arg⟩ => .i64Load32S arg.toEncoder
  | ⟨.i64Load32U, arg⟩ => .i64Load32U arg.toEncoder
  | ⟨.i32Store, arg⟩ => .i32Store arg.toEncoder
  | ⟨.i64Store, arg⟩ => .i64Store arg.toEncoder
  | ⟨.f32Store, arg⟩ => .f32Store arg.toEncoder
  | ⟨.f64Store, arg⟩ => .f64Store arg.toEncoder
  | ⟨.i32Store8, arg⟩ => .i32Store8 arg.toEncoder
  | ⟨.i32Store16, arg⟩ => .i32Store16 arg.toEncoder
  | ⟨.i64Store8, arg⟩ => .i64Store8 arg.toEncoder
  | ⟨.i64Store16, arg⟩ => .i64Store16 arg.toEncoder
  | ⟨.i64Store32, arg⟩ => .i64Store32 arg.toEncoder
  | ⟨.memorySize, memory⟩ => .memorySize memory
  | ⟨.memoryGrow, memory⟩ => .memoryGrow memory
  | ⟨.i32Const, value⟩ => .i32Const value
  | ⟨.i64Const, value⟩ => .i64Const value
  | ⟨.f32Const, bits⟩ => .f32Const bits
  | ⟨.f64Const, bits⟩ => .f64Const bits
  | ⟨.i32Eqz, _⟩ => .i32Eqz
  | ⟨.i32Eq, _⟩ => .i32Eq
  | ⟨.i32Ne, _⟩ => .i32Ne
  | ⟨.i32LtS, _⟩ => .i32LtS
  | ⟨.i32LtU, _⟩ => .i32LtU
  | ⟨.i32GtS, _⟩ => .i32GtS
  | ⟨.i32GtU, _⟩ => .i32GtU
  | ⟨.i32LeS, _⟩ => .i32LeS
  | ⟨.i32LeU, _⟩ => .i32LeU
  | ⟨.i32GeS, _⟩ => .i32GeS
  | ⟨.i32GeU, _⟩ => .i32GeU
  | ⟨.i64Eqz, _⟩ => .i64Eqz
  | ⟨.i64Eq, _⟩ => .i64Eq
  | ⟨.i64Ne, _⟩ => .i64Ne
  | ⟨.i64LtS, _⟩ => .i64LtS
  | ⟨.i64LtU, _⟩ => .i64LtU
  | ⟨.i64GtS, _⟩ => .i64GtS
  | ⟨.i64GtU, _⟩ => .i64GtU
  | ⟨.i64LeS, _⟩ => .i64LeS
  | ⟨.i64LeU, _⟩ => .i64LeU
  | ⟨.i64GeS, _⟩ => .i64GeS
  | ⟨.i64GeU, _⟩ => .i64GeU
  | ⟨.f32Eq, _⟩ => .f32Eq
  | ⟨.f32Ne, _⟩ => .f32Ne
  | ⟨.f32Lt, _⟩ => .f32Lt
  | ⟨.f32Gt, _⟩ => .f32Gt
  | ⟨.f32Le, _⟩ => .f32Le
  | ⟨.f32Ge, _⟩ => .f32Ge
  | ⟨.f64Eq, _⟩ => .f64Eq
  | ⟨.f64Ne, _⟩ => .f64Ne
  | ⟨.f64Lt, _⟩ => .f64Lt
  | ⟨.f64Gt, _⟩ => .f64Gt
  | ⟨.f64Le, _⟩ => .f64Le
  | ⟨.f64Ge, _⟩ => .f64Ge
  | ⟨.i32Clz, _⟩ => .i32Clz
  | ⟨.i32Ctz, _⟩ => .i32Ctz
  | ⟨.i32Popcnt, _⟩ => .i32Popcnt
  | ⟨.i32Add, _⟩ => .i32Add
  | ⟨.i32Sub, _⟩ => .i32Sub
  | ⟨.i32Mul, _⟩ => .i32Mul
  | ⟨.i32DivS, _⟩ => .i32DivS
  | ⟨.i32DivU, _⟩ => .i32DivU
  | ⟨.i32RemS, _⟩ => .i32RemS
  | ⟨.i32RemU, _⟩ => .i32RemU
  | ⟨.i32And, _⟩ => .i32And
  | ⟨.i32Or, _⟩ => .i32Or
  | ⟨.i32Xor, _⟩ => .i32Xor
  | ⟨.i32Shl, _⟩ => .i32Shl
  | ⟨.i32ShrS, _⟩ => .i32ShrS
  | ⟨.i32ShrU, _⟩ => .i32ShrU
  | ⟨.i32Rotl, _⟩ => .i32Rotl
  | ⟨.i32Rotr, _⟩ => .i32Rotr
  | ⟨.i64Clz, _⟩ => .i64Clz
  | ⟨.i64Ctz, _⟩ => .i64Ctz
  | ⟨.i64Popcnt, _⟩ => .i64Popcnt
  | ⟨.i64Add, _⟩ => .i64Add
  | ⟨.i64Sub, _⟩ => .i64Sub
  | ⟨.i64Mul, _⟩ => .i64Mul
  | ⟨.i64DivS, _⟩ => .i64DivS
  | ⟨.i64DivU, _⟩ => .i64DivU
  | ⟨.i64RemS, _⟩ => .i64RemS
  | ⟨.i64RemU, _⟩ => .i64RemU
  | ⟨.i64And, _⟩ => .i64And
  | ⟨.i64Or, _⟩ => .i64Or
  | ⟨.i64Xor, _⟩ => .i64Xor
  | ⟨.i64Shl, _⟩ => .i64Shl
  | ⟨.i64ShrS, _⟩ => .i64ShrS
  | ⟨.i64ShrU, _⟩ => .i64ShrU
  | ⟨.i64Rotl, _⟩ => .i64Rotl
  | ⟨.i64Rotr, _⟩ => .i64Rotr
  | ⟨.f32Abs, _⟩ => .f32Abs
  | ⟨.f32Neg, _⟩ => .f32Neg
  | ⟨.f32Ceil, _⟩ => .f32Ceil
  | ⟨.f32Floor, _⟩ => .f32Floor
  | ⟨.f32Trunc, _⟩ => .f32Trunc
  | ⟨.f32Nearest, _⟩ => .f32Nearest
  | ⟨.f32Sqrt, _⟩ => .f32Sqrt
  | ⟨.f32Add, _⟩ => .f32Add
  | ⟨.f32Sub, _⟩ => .f32Sub
  | ⟨.f32Mul, _⟩ => .f32Mul
  | ⟨.f32Div, _⟩ => .f32Div
  | ⟨.f32Min, _⟩ => .f32Min
  | ⟨.f32Max, _⟩ => .f32Max
  | ⟨.f32Copysign, _⟩ => .f32Copysign
  | ⟨.f64Abs, _⟩ => .f64Abs
  | ⟨.f64Neg, _⟩ => .f64Neg
  | ⟨.f64Ceil, _⟩ => .f64Ceil
  | ⟨.f64Floor, _⟩ => .f64Floor
  | ⟨.f64Trunc, _⟩ => .f64Trunc
  | ⟨.f64Nearest, _⟩ => .f64Nearest
  | ⟨.f64Sqrt, _⟩ => .f64Sqrt
  | ⟨.f64Add, _⟩ => .f64Add
  | ⟨.f64Sub, _⟩ => .f64Sub
  | ⟨.f64Mul, _⟩ => .f64Mul
  | ⟨.f64Div, _⟩ => .f64Div
  | ⟨.f64Min, _⟩ => .f64Min
  | ⟨.f64Max, _⟩ => .f64Max
  | ⟨.f64Copysign, _⟩ => .f64Copysign
  | ⟨.i32WrapI64, _⟩ => .i32WrapI64
  | ⟨.i32TruncF32S, _⟩ => .i32TruncF32S
  | ⟨.i32TruncF32U, _⟩ => .i32TruncF32U
  | ⟨.i32TruncF64S, _⟩ => .i32TruncF64S
  | ⟨.i32TruncF64U, _⟩ => .i32TruncF64U
  | ⟨.i64ExtendI32S, _⟩ => .i64ExtendI32S
  | ⟨.i64ExtendI32U, _⟩ => .i64ExtendI32U
  | ⟨.i64TruncF32S, _⟩ => .i64TruncF32S
  | ⟨.i64TruncF32U, _⟩ => .i64TruncF32U
  | ⟨.i64TruncF64S, _⟩ => .i64TruncF64S
  | ⟨.i64TruncF64U, _⟩ => .i64TruncF64U
  | ⟨.f32ConvertI32S, _⟩ => .f32ConvertI32S
  | ⟨.f32ConvertI32U, _⟩ => .f32ConvertI32U
  | ⟨.f32ConvertI64S, _⟩ => .f32ConvertI64S
  | ⟨.f32ConvertI64U, _⟩ => .f32ConvertI64U
  | ⟨.f32DemoteF64, _⟩ => .f32DemoteF64
  | ⟨.f64ConvertI32S, _⟩ => .f64ConvertI32S
  | ⟨.f64ConvertI32U, _⟩ => .f64ConvertI32U
  | ⟨.f64ConvertI64S, _⟩ => .f64ConvertI64S
  | ⟨.f64ConvertI64U, _⟩ => .f64ConvertI64U
  | ⟨.f64PromoteF32, _⟩ => .f64PromoteF32
  | ⟨.i32ReinterpretF32, _⟩ => .i32ReinterpretF32
  | ⟨.i64ReinterpretF64, _⟩ => .i64ReinterpretF64
  | ⟨.f32ReinterpretI32, _⟩ => .f32ReinterpretI32
  | ⟨.f64ReinterpretI64, _⟩ => .f64ReinterpretI64

/-- The instruction in the binary format. -/
def bytes (i : Instruction) : List UInt8 := i.toEncoder.encode

end Instruction

end Embedder
