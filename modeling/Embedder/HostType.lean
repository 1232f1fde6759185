import Embedder.ValueType

/-!
The types in which a host language declares parameters and results. Only its four numeric types
cross the boundary to WebAssembly; the others exist so that a declaration can say what it means and
be refused by that name.
-/

namespace Embedder

inductive HostType where
  | num (type : ValueType)
  | i8 | i16 | u8 | u16 | u32 | u64
  | bool | char | str | unit
  | struct (name : String)
  | option (inner : HostType)
  | array (element : HostType)
  deriving DecidableEq, Repr

namespace HostType

/-- The value type that a host type crosses the boundary as, if it does. Parameters and results
both go by this one rule. -/
def valueType? : HostType → Option ValueType
  | .num t => some t
  | _ => none

/-- The type as a host program spells it. -/
def text : HostType → String
  | .num t => t.name
  | .i8 => "i8"
  | .i16 => "i16"
  | .u8 => "u8"
  | .u16 => "u16"
  | .u32 => "u32"
  | .u64 => "u64"
  | .bool => "bool"
  | .char => "char"
  | .str => "str"
  | .unit => "()"
  | .struct name => name
  | .option inner => "Option<" ++ inner.text ++ ">"
  | .array element => "[" ++ element.text ++ "]"

/-- The types that a word of their own stands for. -/
def primitives : List HostType :=
  [.num .i32, .num .i64, .num .f32, .num .f64, .i8, .i16, .u8, .u16, .u32, .u64, .bool, .char, .str]

/-- A host type crosses as `t` exactly when it is the numeric type `t`. -/
theorem valueType?_eq_some_iff {h : HostType} {t : ValueType} :
    h.valueType? = some t ↔ h = .num t := by
  cases h <;> simp [valueType?]

end HostType

end Embedder
