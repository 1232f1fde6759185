import Embedder.ValueType

/-!
The shapes that the immediates of an instruction come in. An opcode fixes the shape, and the shape
fixes what an instruction carries: its type, the names of its fields and its canonical value.
-/

namespace Embedder

/-- What an index counts. -/
inductive IndexSpace where
  | labels | functions | locals | globals | memories
  deriving DecidableEq, Repr

inductive Shape where
  | plain
  | block
  | index (space : IndexSpace)
  | branchTable
  | indirectCall
  /-- A load or store of `2 ^ naturalAlign` bytes. -/
  | access (naturalAlign : Nat)
  | const (type : ValueType)
  deriving DecidableEq, Repr

/-- The labels of a branch table: one for each small operand, and one for all the others. -/
structure BranchTable where
  targets : List UInt32 := []
  otherwise : UInt32 := 0
  deriving DecidableEq, Repr

/-- The type that a function must have, and the table that it is looked up in. -/
structure IndirectCall where
  type : UInt32 := 0
  table : UInt32 := 0
  deriving DecidableEq, Repr

/-- Where a load or store goes: a fixed offset, and the promised alignment as an exponent of two. -/
structure MemArg where
  offset : UInt32 := 0
  align : UInt32 := 0
  deriving DecidableEq, Repr

/-- The name of the field that holds an index. -/
def IndexSpace.field : IndexSpace → String
  | .labels => "depth"
  | .functions => "function"
  | .locals => "local"
  | .globals => "global"
  | .memories => "memory"

namespace Shape

/-- The names of the fields, in the order in which the binary format writes them. -/
def fields : Shape → List String
  | .plain => []
  | .block => ["ty"]
  | .index space => [space.field]
  | .branchTable => ["targets", "default"]
  | .indirectCall => ["ty", "table"]
  | .access _ => ["memarg"]
  | .const _ => ["value"]

/-- What an instruction of the shape carries: a block its result type, a constant its bits. -/
@[reducible] def Immediates : Shape → Type
  | .plain => Unit
  | .block => Option ValueType
  | .index _ => UInt32
  | .branchTable => BranchTable
  | .indirectCall => IndirectCall
  | .access _ => MemArg
  | .const t => BitVec t.width

instance : (s : Shape) → DecidableEq s.Immediates
  | .plain => inferInstanceAs (DecidableEq Unit)
  | .block => inferInstanceAs (DecidableEq (Option ValueType))
  | .index _ => inferInstanceAs (DecidableEq UInt32)
  | .branchTable => inferInstanceAs (DecidableEq BranchTable)
  | .indirectCall => inferInstanceAs (DecidableEq IndirectCall)
  | .access _ => inferInstanceAs (DecidableEq MemArg)
  | .const t => inferInstanceAs (DecidableEq (BitVec t.width))

/-- The immediates of a canonical instruction: nothing, or zero throughout. -/
def canonical : (s : Shape) → s.Immediates
  | .plain => ()
  | .block => none
  | .index _ => 0
  | .branchTable => ⟨[], 0⟩
  | .indirectCall => ⟨0, 0⟩
  | .access _ => ⟨0, 0⟩
  | .const _ => 0

end Shape

end Embedder
