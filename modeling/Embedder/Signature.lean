import Embedder.ValueType

/-! Function types: any number of parameters and at most one result. -/

namespace Embedder

structure Signature where
  params : List ValueType := []
  result : Option ValueType := none
  deriving DecidableEq, Repr, Hashable

namespace Signature

/-- The result as a list, empty for functions that return nothing. -/
def results (s : Signature) : List ValueType := s.result.toList

/-- The signature as it stands in messages: `(i32, f64) -> i32`, without the arrow when nothing is
returned. -/
def text (s : Signature) : String :=
  "(" ++ ", ".intercalate (s.params.map (·.name)) ++ ")" ++
    match s.result with
    | none => ""
    | some t => " -> " ++ t.name

/-! ### Reading -/

/-- The types up to the closing parenthesis, of which there is one at least, and what follows. -/
def paramsOf? : List Char → Option (List ValueType × List Char)
  | a :: b :: c :: ',' :: ' ' :: rest => do
    let t ← ValueType.ofName? (String.ofList [a, b, c])
    let (ts, rest) ← paramsOf? rest
    some (t :: ts, rest)
  | a :: b :: c :: ')' :: rest => do
    some ([← ValueType.ofName? (String.ofList [a, b, c])], rest)
  | _ => none

/-- The result after its arrow, or none at the end of the text. -/
def resultOf? : List Char → Option (Option ValueType)
  | [] => some none
  | [' ', '-', '>', ' ', a, b, c] => (ValueType.ofName? (String.ofList [a, b, c])).map some
  | _ => none

/-- The signature that a text stands for. -/
def ofText? (s : String) : Option Signature :=
  match s.toList with
  | '(' :: ')' :: rest => (resultOf? rest).map fun result => ⟨[], result⟩
  | '(' :: rest => do
    let (params, rest) ← paramsOf? rest
    some ⟨params, ← resultOf? rest⟩
  | _ => none

end Signature

end Embedder
