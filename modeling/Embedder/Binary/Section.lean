import Embedder.Binary.Encoder
import Embedder.External
import Embedder.Signature

/-!
The type section and the import section of a module. A type section numbers the types added to it
from zero, without sharing; an import section points into it.
-/

namespace Embedder.Binary

/-! ### Types -/

def valueType (t : ValueType) : List UInt8 := t.toEncoder.encode

/-- A function type: its parameters, then its results. -/
def signature (s : Signature) : List UInt8 :=
  0x60 :: (vector valueType s.params ++ vector valueType s.results)

/-- Refuses a function type with more than one result. -/
def readSignature (countWidth : Nat) : Reader UInt8 Signature := do
  guard ((← Reader.next) = 0x60)
  let params ← readVector countWidth readValueType
  match ← readVector countWidth readValueType with
  | [] => return ⟨params, none⟩
  | [t] => return ⟨params, some t⟩
  | _ => failure

structure TypeSection where
  types : List Signature := []
  deriving DecidableEq, Repr

namespace TypeSection

def empty : TypeSection := {}

/-- The section with one more type, and the index of that type. -/
def add (sec : TypeSection) (s : Signature) : TypeSection × Nat :=
  (⟨sec.types ++ [s]⟩, sec.types.length)

/-- The section with the types added in turn, and their indices. -/
def addAll (sec : TypeSection) : List Signature → TypeSection × List Nat
  | [] => (sec, [])
  | s :: rest =>
    let (sec, i) := sec.add s
    let (sec, is) := sec.addAll rest
    (sec, i :: is)

def bytes (sec : TypeSection) : List UInt8 := framed 1 signature sec.types

def read : Reader UInt8 TypeSection := do
  return ⟨← readFramed 1 (readSignature 32)⟩

end TypeSection

/-! ### Imports -/

/-- What an import entry says of the thing it names. -/
inductive ImportDescription where
  | function (typeIndex : UInt32)
  | memory (limits : Limits)
  deriving DecidableEq, Repr

structure ImportEntry where
  name : ImportName
  description : ImportDescription
  deriving DecidableEq, Repr

/-- A flag tells whether a maximum follows the minimum. -/
def limits (l : Limits) : List UInt8 :=
  match l.max with
  | none => 0x00 :: index l.min
  | some max => 0x01 :: (index l.min ++ index max)

def readLimits : Reader UInt8 Limits := do
  let flag ← Reader.next
  let min ← readIndex
  if flag = 0x00 then return ⟨min, none⟩
  else if flag = 0x01 then return ⟨min, some (← readIndex)⟩
  else failure

/-- The kind of the import, then its type or its limits. -/
def importDescription : ImportDescription → List UInt8
  | .function i => ExternalKind.function.byte :: index i
  | .memory l => ExternalKind.memory.byte :: limits l

/-- Knows functions and memories only. -/
def readImportDescription : Reader UInt8 ImportDescription := do
  let kind ← Reader.next
  if kind = 0x00 then return .function (← readIndex)
  else if kind = 0x02 then return .memory (← readLimits)
  else failure

def importEntry (e : ImportEntry) : List UInt8 :=
  name e.name.moduleName ++ name e.name.exportName ++ importDescription e.description

def readImportEntry : Reader UInt8 ImportEntry := do
  let moduleName ← readName
  let exportName ← readName
  return ⟨⟨moduleName, exportName⟩, ← readImportDescription⟩

structure ImportSection where
  entries : List ImportEntry := []
  deriving DecidableEq, Repr

namespace ImportSection

def bytes (sec : ImportSection) : List UInt8 := framed 2 importEntry sec.entries

def read : Reader UInt8 ImportSection := do
  return ⟨← readFramed 2 readImportEntry⟩

end ImportSection

end Embedder.Binary
