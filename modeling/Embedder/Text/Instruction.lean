import Embedder.Ieee.Literal
import Embedder.Instruction
import Embedder.Text.Token

/-!
Instructions in the text format: the mnemonic, then what the instruction carries as far as the
format shows it. Offsets and alignments of zero are not written, and neither is the memory of
`memory.size` and `memory.grow`.
-/

namespace Embedder

namespace Text

/-- Alignments are written as powers of two, none of them above this exponent. -/
def maxAlign : Nat := 63

def offset (a : MemArg) : List Token :=
  if a.offset = 0 then [] else [.word ("offset=" ++ toString a.offset.toNat)]

def align (a : MemArg) : List Token :=
  if a.align = 0 then [] else [.word ("align=" ++ toString (1 <<< min a.align.toNat maxAlign))]

/-- The text of a constant. -/
def const (t : ValueType) (bits : BitVec t.width) : String :=
  if t.isFloat then String.ofList (t.format.literal bits.toNat) else toString bits.toInt

/-- The label for all other operands comes last in a branch table, and the table of an indirect call
before its type. -/
def immediates : (s : Shape) → s.Immediates → List Token
  | .plain, _ => []
  | .block, none => []
  | .block, some t => Token.group [.word "result", .type t]
  | .index .memories, _ => []
  | .index _, i => [.index i]
  | .branchTable, b => b.targets.map .index ++ [.index b.otherwise]
  | .indirectCall, c => .index c.table :: Token.group [.word "type", .index c.type]
  | .access _, a => offset a ++ align a
  | .const t, bits => [.word (const t bits)]

end Text

namespace Instruction

def tokens (i : Instruction) : List Text.Token :=
  .word i.mnemonic :: Text.immediates i.opcode.shape i.immediates

/-- The instruction in the text format. -/
def wat (i : Instruction) : String := String.ofList (Text.Token.write i.tokens)

/-- A sequence of instructions in the text format, on one line. -/
def watAll (is : List Instruction) : String := String.ofList (Text.Token.write (is.flatMap tokens))

end Instruction

end Embedder
