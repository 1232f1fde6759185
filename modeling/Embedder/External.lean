import Embedder.ValueType

/-!
What a module can ask its embedder for: functions, tables, memories and globals, each under a pair
of names.
-/

namespace Embedder

inductive ExternalKind where
  | function | table | memory | global
  deriving DecidableEq, Repr

namespace ExternalKind

/-- Byte in the binary format. -/
def byte : ExternalKind → UInt8
  | .function => 0
  | .table => 1
  | .memory => 2
  | .global => 3

/-- Name in messages. -/
def name : ExternalKind → String
  | .function => "function"
  | .table => "table"
  | .memory => "memory"
  | .global => "global"

end ExternalKind

/-- Size bounds of a table in elements, or of a memory in pages. They are taken as given: a maximum
may lie below its minimum. -/
structure Limits where
  min : UInt32 := 0
  max : Option UInt32 := none
  deriving DecidableEq, Repr

/-- The two names that an import goes by. -/
structure ImportName where
  moduleName : String
  exportName : String
  deriving DecidableEq, Repr, Hashable

end Embedder
