import Embedder.Value

/-! The ways in which a call of a host function fails, and what a call comes to. -/

namespace Embedder

inductive Trap where
  | argumentCount (expected actual : Nat)
  | argumentType (index : Nat) (expected actual : ValueType)
  | resultType (expected actual : Option ValueType)
  /-- The host function's own failure, in its own words. -/
  | host (message : String)
  deriving DecidableEq, Repr

namespace Trap

/-- The type of a result, or that there is none. -/
def resultText : Option ValueType → String
  | none => "None"
  | some t => "Some(" ++ t.title ++ ")"

def message : Trap → String
  | .argumentCount expected actual => s!"expected {expected} arguments, got {actual}"
  | .argumentType index expected actual =>
    s!"argument {index} should be " ++ expected.name ++ ", got " ++ actual.name
  | .resultType expected actual =>
    "host function returned " ++ resultText actual ++ ", expected " ++ resultText expected
  | .host message => message

end Trap

/-- What a call comes to: a trap, or one value at most. -/
abbrev Outcome := Except Trap (Option Value)

end Embedder
