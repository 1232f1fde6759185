import Embedder.Shape

/-!
The catalog of opcodes: one row for each, with its byte in the binary format, its mnemonic in the
text format and the shape of its immediates. Everything else about an opcode is read off its row.
The byte is its identity: rows may be added, never renumbered.
-/

namespace Embedder

inductive Opcode where
  | unreachable | nop | block | loop | ifOp | elseOp | endOp | br | brIf | brTable | returnOp | call
  | callIndirect
  | drop | select
  | localGet | localSet | localTee | globalGet | globalSet
  | i32Load | i64Load | f32Load | f64Load | i32Load8S | i32Load8U | i32Load16S | i32Load16U
  | i64Load8S | i64Load8U | i64Load16S | i64Load16U | i64Load32S | i64Load32U
  | i32Store | i64Store | f32Store | f64Store | i32Store8 | i32Store16 | i64Store8 | i64Store16
  | i64Store32
  | memorySize | memoryGrow
  | i32Const | i64Const | f32Const | f64Const
  | i32Eqz | i32Eq | i32Ne | i32LtS | i32LtU | i32GtS | i32GtU | i32LeS | i32LeU | i32GeS | i32GeU
  | i64Eqz | i64Eq | i64Ne | i64LtS | i64LtU | i64GtS | i64GtU | i64LeS | i64LeU | i64GeS | i64GeU
  | f32Eq | f32Ne | f32Lt | f32Gt | f32Le | f32Ge
  | f64Eq | f64Ne | f64Lt | f64Gt | f64Le | f64Ge
  | i32Clz | i32Ctz | i32Popcnt | i32Add | i32Sub | i32Mul | i32DivS | i32DivU | i32RemS | i32RemU
  | i32And | i32Or | i32Xor | i32Shl | i32ShrS | i32ShrU | i32Rotl | i32Rotr
  | i64Clz | i64Ctz | i64Popcnt | i64Add | i64Sub | i64Mul | i64DivS | i64DivU | i64RemS | i64RemU
  | i64And | i64Or | i64Xor | i64Shl | i64ShrS | i64ShrU | i64Rotl | i64Rotr
  | f32Abs | f32Neg | f32Ceil | f32Floor | f32Trunc | f32Nearest | f32Sqrt | f32Add | f32Sub
  | f32Mul | f32Div | f32Min | f32Max | f32Copysign
  | f64Abs | f64Neg | f64Ceil | f64Floor | f64Trunc | f64Nearest | f64Sqrt | f64Add | f64Sub
  | f64Mul | f64Div | f64Min | f64Max | f64Copysign
  | i32WrapI64 | i32TruncF32S | i32TruncF32U | i32TruncF64S | i32TruncF64U | i64ExtendI32S
  | i64ExtendI32U | i64TruncF32S | i64TruncF32U | i64TruncF64S | i64TruncF64U | f32ConvertI32S
  | f32ConvertI32U | f32ConvertI64S | f32ConvertI64U | f32DemoteF64 | f64ConvertI32S
  | f64ConvertI32U | f64ConvertI64S | f64ConvertI64U | f64PromoteF32 | i32ReinterpretF32
  | i64ReinterpretF64 | f32ReinterpretI32 | f64ReinterpretI64
  deriving DecidableEq

namespace Opcode

/-- What the catalog says of an opcode. -/
structure Row where
  byte : UInt8
  mnemonic : String
  shape : Shape

def row : Opcode → Row
  | .unreachable => ⟨0x00, "unreachable", .plain⟩
  | .nop => ⟨0x01, "nop", .plain⟩
  | .block => ⟨0x02, "block", .block⟩
  | .loop => ⟨0x03, "loop", .block⟩
  | .ifOp => ⟨0x04, "if", .block⟩
  | .elseOp => ⟨0x05, "else", .plain⟩
  | .endOp => ⟨0x0B, "end", .plain⟩
  | .br => ⟨0x0C, "br", .index .labels⟩
  | .brIf => ⟨0x0D, "br_if", .index .labels⟩
  | .brTable => ⟨0x0E, "br_table", .branchTable⟩
  | .returnOp => ⟨0x0F, "return", .plain⟩
  | .call => ⟨0x10, "call", .index .functions⟩
  | .callIndirect => ⟨0x11, "call_indirect", .indirectCall⟩
  | .drop => ⟨0x1A, "drop", .plain⟩
  | .select => ⟨0x1B, "select", .plain⟩
  | .localGet => ⟨0x20, "local.get", .index .locals⟩
  | .localSet => ⟨0x21, "local.set", .index .locals⟩
  | .localTee => ⟨0x22, "local.tee", .index .locals⟩
  | .globalGet => ⟨0x23, "global.get", .index .globals⟩
  | .globalSet => ⟨0x24, "global.set", .index .globals⟩
  | .i32Load => ⟨0x28, "i32.load", .access 2⟩
  | .i64Load => ⟨0x29, "i64.load", .access 3⟩
  | .f32Load => ⟨0x2A, "f32.load", .access 2⟩
  | .f64Load => ⟨0x2B, "f64.load", .access 3⟩
  | .i32Load8S => ⟨0x2C, "i32.load8_s", .access 0⟩
  | .i32Load8U => ⟨0x2D, "i32.load8_u", .access 0⟩
  | .i32Load16S => ⟨0x2E, "i32.load16_s", .access 1⟩
  | .i32Load16U => ⟨0x2F, "i32.load16_u", .access 1⟩
  | .i64Load8S => ⟨0x30, "i64.load8_s", .access 0⟩
  | .i64Load8U => ⟨0x31, "i64.load8_u", .access 0⟩
  | .i64Load16S => ⟨0x32, "i64.load16_s", .access 1⟩
  | .i64Load16U => ⟨0x33, "i64.load16_u", .access 1⟩
  | .i64Load32S => ⟨0x34, "i64.load32_s", .access 2⟩
  | .i64Load32U => ⟨0x35, "i64.load32_u", .access 2⟩
  | .i32Store => ⟨0x36, "i32.store", .access 2⟩
  | .i64Store => ⟨0x37, "i64.store", .access 3⟩
  | .f32Store => ⟨0x38, "f32.store", .access 2⟩
  | .f64Store => ⟨0x39, "f64.store", .access 3⟩
  | .i32Store8 => ⟨0x3A, "i32.store8", .access 0⟩
  | .i32Store16 => ⟨0x3B, "i32.store16", .access 1⟩
  | .i64Store8 => ⟨0x3C, "i64.store8", .access 0⟩
  | .i64Store16 => ⟨0x3D, "i64.store16", .access 1⟩
  | .i64Store32 => ⟨0x3E, "i64.store32", .access 2⟩
  | .memorySize => ⟨0x3F, "memory.size", .index .memories⟩
  | .memoryGrow => ⟨0x40, "memory.grow", .index .memories⟩
  | .i32Const => ⟨0x41, "i32.const", .const .i32⟩
  | .i64Const => ⟨0x42, "i64.const", .const .i64⟩
  | .f32Const => ⟨0x43, "f32.const", .const .f32⟩
  | .f64Const => ⟨0x44, "f64.const", .const .f64⟩
  | .i32Eqz => ⟨0x45, "i32.eqz", .plain⟩
  | .i32Eq => ⟨0x46, "i32.eq", .plain⟩
  | .i32Ne => ⟨0x47, "i32.ne", .plain⟩
  | .i32LtS => ⟨0x48, "i32.lt_s", .plain⟩
  | .i32LtU => ⟨0x49, "i32.lt_u", .plain⟩
  | .i32GtS => ⟨0x4A, "i32.gt_s", .plain⟩
  | .i32GtU => ⟨0x4B, "i32.gt_u", .plain⟩
  | .i32LeS => ⟨0x4C, "i32.le_s", .plain⟩
  | .i32LeU => ⟨0x4D, "i32.le_u", .plain⟩
  | .i32GeS => ⟨0x4E, "i32.ge_s", .plain⟩
  | .i32GeU => ⟨0x4F, "i32.ge_u", .plain⟩
  | .i64Eqz => ⟨0x50, "i64.eqz", .plain⟩
  | .i64Eq => ⟨0x51, "i64.eq", .plain⟩
  | .i64Ne => ⟨0x52, "i64.ne", .plain⟩
  | .i64LtS => ⟨0x53, "i64.lt_s", .plain⟩
  | .i64LtU => ⟨0x54, "i64.lt_u", .plain⟩
  | .i64GtS => ⟨0x55, "i64.gt_s", .plain⟩
  | .i64GtU => ⟨0x56, "i64.gt_u", .plain⟩
  | .i64LeS => ⟨0x57, "i64.le_s", .plain⟩
  | .i64LeU => ⟨0x58, "i64.le_u", .plain⟩
  | .i64GeS => ⟨0x59, "i64.ge_s", .plain⟩
  | .i64GeU => ⟨0x5A, "i64.ge_u", .plain⟩
  | .f32Eq => ⟨0x5B, "f32.eq", .plain⟩
  | .f32Ne => ⟨0x5C, "f32.ne", .plain⟩
  | .f32Lt => ⟨0x5D, "f32.lt", .plain⟩
  | .f32Gt => ⟨0x5E, "f32.gt", .plain⟩
  | .f32Le => ⟨0x5F, "f32.le", .plain⟩
  | .f32Ge => ⟨0x60, "f32.ge", .plain⟩
  | .f64Eq => ⟨0x61, "f64.eq", .plain⟩
  | .f64Ne => ⟨0x62, "f64.ne", .plain⟩
  | .f64Lt => ⟨0x63, "f64.lt", .plain⟩
  | .f64Gt => ⟨0x64, "f64.gt", .plain⟩
  | .f64Le => ⟨0x65, "f64.le", .plain⟩
  | .f64Ge => ⟨0x66, "f64.ge", .plain⟩
  | .i32Clz => ⟨0x67, "i32.clz", .plain⟩
  | .i32Ctz => ⟨0x68, "i32.ctz", .plain⟩
  | .i32Popcnt => ⟨0x69, "i32.popcnt", .plain⟩
  | .i32Add => ⟨0x6A, "i32.add", .plain⟩
  | .i32Sub => ⟨0x6B, "i32.sub", .plain⟩
  | .i32Mul => ⟨0x6C, "i32.mul", .plain⟩
  | .i32DivS => ⟨0x6D, "i32.div_s", .plain⟩
  | .i32DivU => ⟨0x6E, "i32.div_u", .plain⟩
  | .i32RemS => ⟨0x6F, "i32.rem_s", .plain⟩
  | .i32RemU => ⟨0x70, "i32.rem_u", .plain⟩
  | .i32And => ⟨0x71, "i32.and", .plain⟩
  | .i32Or => ⟨0x72, "i32.or", .plain⟩
  | .i32Xor => ⟨0x73, "i32.xor", .plain⟩
  | .i32Shl => ⟨0x74, "i32.shl", .plain⟩
  | .i32ShrS => ⟨0x75, "i32.shr_s", .plain⟩
  | .i32ShrU => ⟨0x76, "i32.shr_u", .plain⟩
  | .i32Rotl => ⟨0x77, "i32.rotl", .plain⟩
  | .i32Rotr => ⟨0x78, "i32.rotr", .plain⟩
  | .i64Clz => ⟨0x79, "i64.clz", .plain⟩
  | .i64Ctz => ⟨0x7A, "i64.ctz", .plain⟩
  | .i64Popcnt => ⟨0x7B, "i64.popcnt", .plain⟩
  | .i64Add => ⟨0x7C, "i64.add", .plain⟩
  | .i64Sub => ⟨0x7D, "i64.sub", .plain⟩
  | .i64Mul => ⟨0x7E, "i64.mul", .plain⟩
  | .i64DivS => ⟨0x7F, "i64.div_s", .plain⟩
  | .i64DivU => ⟨0x80, "i64.div_u", .plain⟩
  | .i64RemS => ⟨0x81, "i64.rem_s", .plain⟩
  | .i64RemU => ⟨0x82, "i64.rem_u", .plain⟩
  | .i64And => ⟨0x83, "i64.and", .plain⟩
  | .i64Or => ⟨0x84, "i64.or", .plain⟩
  | .i64Xor => ⟨0x85, "i64.xor", .plain⟩
  | .i64Shl => ⟨0x86, "i64.shl", .plain⟩
  | .i64ShrS => ⟨0x87, "i64.shr_s", .plain⟩
  | .i64ShrU => ⟨0x88, "i64.shr_u", .plain⟩
  | .i64Rotl => ⟨0x89, "i64.rotl", .plain⟩
  | .i64Rotr => ⟨0x8A, "i64.rotr", .plain⟩
  | .f32Abs => ⟨0x8B, "f32.abs", .plain⟩
  | .f32Neg => ⟨0x8C, "f32.neg", .plain⟩
  | .f32Ceil => ⟨0x8D, "f32.ceil", .plain⟩
  | .f32Floor => ⟨0x8E, "f32.floor", .plain⟩
  | .f32Trunc => ⟨0x8F, "f32.trunc", .plain⟩
  | .f32Nearest => ⟨0x90, "f32.nearest", .plain⟩
  | .f32Sqrt => ⟨0x91, "f32.sqrt", .plain⟩
  | .f32Add => ⟨0x92, "f32.add", .plain⟩
  | .f32Sub => ⟨0x93, "f32.sub", .plain⟩
  | .f32Mul => ⟨0x94, "f32.mul", .plain⟩
  | .f32Div => ⟨0x95, "f32.div", .plain⟩
  | .f32Min => ⟨0x96, "f32.min", .plain⟩
  | .f32Max => ⟨0x97, "f32.max", .plain⟩
  | .f32Copysign => ⟨0x98, "f32.copysign", .plain⟩
  | .f64Abs => ⟨0x99, "f64.abs", .plain⟩
  | .f64Neg => ⟨0x9A, "f64.neg", .plain⟩
  | .f64Ceil => ⟨0x9B, "f64.ceil", .plain⟩
  | .f64Floor => ⟨0x9C, "f64.floor", .plain⟩
  | .f64Trunc => ⟨0x9D, "f64.trunc", .plain⟩
  | .f64Nearest => ⟨0x9E, "f64.nearest", .plain⟩
  | .f64Sqrt => ⟨0x9F, "f64.sqrt", .plain⟩
  | .f64Add => ⟨0xA0, "f64.add", .plain⟩
  | .f64Sub => ⟨0xA1, "f64.sub", .plain⟩
  | .f64Mul => ⟨0xA2, "f64.mul", .plain⟩
  | .f64Div => ⟨0xA3, "f64.div", .plain⟩
  | .f64Min => ⟨0xA4, "f64.min", .plain⟩
  | .f64Max => ⟨0xA5, "f64.max", .plain⟩
  | .f64Copysign => ⟨0xA6, "f64.copysign", .plain⟩
  | .i32WrapI64 => ⟨0xA7, "i32.wrap_i64", .plain⟩
  | .i32TruncF32S => ⟨0xA8, "i32.trunc_f32_s", .plain⟩
  | .i32TruncF32U => ⟨0xA9, "i32.trunc_f32_u", .plain⟩
  | .i32TruncF64S => ⟨0xAA, "i32.trunc_f64_s", .plain⟩
  | .i32TruncF64U => ⟨0xAB, "i32.trunc_f64_u", .plain⟩
  | .i64ExtendI32S => ⟨0xAC, "i64.extend_i32_s", .plain⟩
  | .i64ExtendI32U => ⟨0xAD, "i64.extend_i32_u", .plain⟩
  | .i64TruncF32S => ⟨0xAE, "i64.trunc_f32_s", .plain⟩
  | .i64TruncF32U => ⟨0xAF, "i64.trunc_f32_u", .plain⟩
  | .i64TruncF64S => ⟨0xB0, "i64.trunc_f64_s", .plain⟩
  | .i64TruncF64U => ⟨0xB1, "i64.trunc_f64_u", .plain⟩
  | .f32ConvertI32S => ⟨0xB2, "f32.convert_i32_s", .plain⟩
  | .f32ConvertI32U => ⟨0xB3, "f32.convert_i32_u", .plain⟩
  | .f32ConvertI64S => ⟨0xB4, "f32.convert_i64_s", .plain⟩
  | .f32ConvertI64U => ⟨0xB5, "f32.convert_i64_u", .plain⟩
  | .f32DemoteF64 => ⟨0xB6, "f32.demote_f64", .plain⟩
  | .f64ConvertI32S => ⟨0xB7, "f64.convert_i32_s", .plain⟩
  | .f64ConvertI32U => ⟨0xB8, "f64.convert_i32_u", .plain⟩
  | .f64ConvertI64S => ⟨0xB9, "f64.convert_i64_s", .plain⟩
  | .f64ConvertI64U => ⟨0xBA, "f64.convert_i64_u", .plain⟩
  | .f64PromoteF32 => ⟨0xBB, "f64.promote_f32", .plain⟩
  | .i32ReinterpretF32 => ⟨0xBC, "i32.reinterpret_f32", .plain⟩
  | .i64ReinterpretF64 => ⟨0xBD, "i64.reinterpret_f64", .plain⟩
  | .f32ReinterpretI32 => ⟨0xBE, "f32.reinterpret_i32", .plain⟩
  | .f64ReinterpretI64 => ⟨0xBF, "f64.reinterpret_i64", .plain⟩

/-- Byte in the binary format. -/
def byte (op : Opcode) : UInt8 := op.row.byte

/-- Name in the text format. -/
def mnemonic (op : Opcode) : String := op.row.mnemonic

/-- What an instruction with this opcode carries. -/
@[reducible] def shape (op : Opcode) : Shape := op.row.shape

/-- Every opcode, in ascending order of bytes. -/
def all : List Opcode := [
  .unreachable, .nop, .block, .loop, .ifOp, .elseOp, .endOp, .br, .brIf, .brTable, .returnOp, .call,
  .callIndirect, .drop, .select, .localGet, .localSet, .localTee, .globalGet, .globalSet, .i32Load,
  .i64Load, .f32Load, .f64Load, .i32Load8S, .i32Load8U, .i32Load16S, .i32Load16U, .i64Load8S,
  .i64Load8U, .i64Load16S, .i64Load16U, .i64Load32S, .i64Load32U, .i32Store, .i64Store, .f32Store,
  .f64Store, .i32Store8, .i32Store16, .i64Store8, .i64Store16, .i64Store32, .memorySize,
  .memoryGrow, .i32Const, .i64Const, .f32Const, .f64Const, .i32Eqz, .i32Eq, .i32Ne, .i32LtS,
  .i32LtU, .i32GtS, .i32GtU, .i32LeS, .i32LeU, .i32GeS, .i32GeU, .i64Eqz, .i64Eq, .i64Ne, .i64LtS,
  .i64LtU, .i64GtS, .i64GtU, .i64LeS, .i64LeU, .i64GeS, .i64GeU, .f32Eq, .f32Ne, .f32Lt, .f32Gt,
  .f32Le, .f32Ge, .f64Eq, .f64Ne, .f64Lt, .f64Gt, .f64Le, .f64Ge, .i32Clz, .i32Ctz, .i32Popcnt,
  .i32Add, .i32Sub, .i32Mul, .i32DivS, .i32DivU, .i32RemS, .i32RemU, .i32And, .i32Or, .i32Xor,
  .i32Shl, .i32ShrS, .i32ShrU, .i32Rotl, .i32Rotr, .i64Clz, .i64Ctz, .i64Popcnt, .i64Add, .i64Sub,
  .i64Mul, .i64DivS, .i64DivU, .i64RemS, .i64RemU, .i64And, .i64Or, .i64Xor, .i64Shl, .i64ShrS,
  .i64ShrU, .i64Rotl, .i64Rotr, .f32Abs, .f32Neg, .f32Ceil, .f32Floor, .f32Trunc, .f32Nearest,
  .f32Sqrt, .f32Add, .f32Sub, .f32Mul, .f32Div, .f32Min, .f32Max, .f32Copysign, .f64Abs, .f64Neg,
  .f64Ceil, .f64Floor, .f64Trunc, .f64Nearest, .f64Sqrt, .f64Add, .f64Sub, .f64Mul, .f64Div,
  .f64Min, .f64Max, .f64Copysign, .i32WrapI64, .i32TruncF32S, .i32TruncF32U, .i32TruncF64S,
  .i32TruncF64U, .i64ExtendI32S, .i64ExtendI32U, .i64TruncF32S, .i64TruncF32U, .i64TruncF64S,
  .i64TruncF64U, .f32ConvertI32S, .f32ConvertI32U, .f32ConvertI64S, .f32ConvertI64U, .f32DemoteF64,
  .f64ConvertI32S, .f64ConvertI32U, .f64ConvertI64S, .f64ConvertI64U, .f64PromoteF32,
  .i32ReinterpretF32, .i64ReinterpretF64, .f32ReinterpretI32, .f64ReinterpretI64]

/-- The opcode of that byte, if there is one. -/
def ofByte? (b : UInt8) : Option Opcode := all.find? (·.byte == b)

/-- The opcode of that mnemonic, if there is one. -/
def ofMnemonic? (s : String) : Option Opcode := all.find? (·.mnemonic == s)

/-- True of the opcodes whose instructions carry nothing. -/
def isMarker (op : Opcode) : Bool := op.shape.fields.isEmpty

/-- Opcodes stand in the order of their bytes. -/
instance : Ord Opcode := ⟨fun a b => compare a.byte b.byte⟩

/-- The characters with dots and underscores taken out and a capital wherever a word begins. -/
def joinWords (atStart : Bool) : List Char → List Char
  | [] => []
  | c :: rest =>
    if c = '.' ∨ c = '_' then joinWords true rest
    else (if atStart then c.toUpper else c) :: joinWords false rest

/-- The mnemonic as one word: `I32TruncF32S` for `i32.trunc_f32_s`. -/
def title (op : Opcode) : String := String.ofList (joinWords true op.mnemonic.toList)

end Opcode

/-- A byte that starts no instruction. -/
structure UnknownOpcode where
  byte : UInt8
  deriving DecidableEq, Repr

/-- The opcode of that byte, or the byte itself where there is none. -/
def Opcode.ofByte (b : UInt8) : Except UnknownOpcode Opcode :=
  match ofByte? b with
  | some op => .ok op
  | none => .error ⟨b⟩

/-- Two hexadecimal digits, capitals. -/
def UnknownOpcode.message (e : UnknownOpcode) : String :=
  let digits := (Nat.toDigits 16 e.byte.toNat).map Char.toUpper
  "Unknown opcode 0x" ++ String.ofList (List.replicate (2 - digits.length) '0' ++ digits)

end Embedder
