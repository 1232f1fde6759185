import Embedder.Opcode
import Embedder.Value

/-! Instructions: an opcode with immediates of the shape that the opcode asks for. -/

namespace Embedder

structure Instruction where
  opcode : Opcode
  immediates : opcode.shape.Immediates
  deriving DecidableEq

/-- Equality of immediates, where float constants compare as floats. -/
def Shape.sameImmediates : (s : Shape) → (a b : s.Immediates) → Bool
  | .const t, a, b => Value.sameNumber t a b
  | _, a, b => decide (a = b)

namespace Instruction

/-- The instruction of an opcode with everything it carries at its default. -/
def canonical (op : Opcode) : Instruction := ⟨op, op.shape.canonical⟩

def mnemonic (i : Instruction) : String := i.opcode.mnemonic

/-- Equality of instructions as a program sees them: a NaN constant differs from itself, and the two
zero constants of a float type are equal. -/
def equals (a b : Instruction) : Bool :=
  if h : a.opcode = b.opcode then
    a.opcode.shape.sameImmediates a.immediates (h ▸ b.immediates)
  else false

end Instruction

end Embedder
