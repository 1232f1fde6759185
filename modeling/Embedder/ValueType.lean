/-!
The four kinds of value that WebAssembly functions take and return, with their names in the text
format and their bytes in the binary format.
-/

namespace Embedder

inductive ValueType where
  | i32 | i64 | f32 | f64
  deriving DecidableEq, Repr, Hashable

namespace ValueType

/-- Every value type, in the order of its name in the standard: integers first, narrow first. -/
def all : List ValueType := [.i32, .i64, .f32, .f64]

/-- Name in the text format. -/
def name : ValueType → String
  | .i32 => "i32"
  | .i64 => "i64"
  | .f32 => "f32"
  | .f64 => "f64"

/-- Name in messages about results, and in descriptions. -/
def title : ValueType → String
  | .i32 => "I32"
  | .i64 => "I64"
  | .f32 => "F32"
  | .f64 => "F64"

/-- Byte in the binary format. -/
def byte : ValueType → UInt8
  | .i32 => 0x7F
  | .i64 => 0x7E
  | .f32 => 0x7D
  | .f64 => 0x7C

/-- Number of bits in a value of the type. -/
def width : ValueType → Nat
  | .i32 | .f32 => 32
  | .i64 | .f64 => 64

def isFloat : ValueType → Bool
  | .i32 | .i64 => false
  | .f32 | .f64 => true

/-- The value type of that name, if there is one. -/
def ofName? (s : String) : Option ValueType := all.find? (·.name == s)

@[simp] theorem ofName?_name (t : ValueType) : ofName? t.name = some t := by cases t <;> decide

end ValueType

end Embedder
