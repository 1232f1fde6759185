import Embedder.Binary.Section
import Embedder.Import
import Std.Data.HashMap
import Std.Data.HashSet

/-!
The import table of a module under construction. Imports come in one by one; each gets the next
index of its own kind, and functions of one signature share one type. A pair of names is taken once,
by whatever kind of import. The table then gives the type section and the import section of the
module.
-/

namespace Embedder

inductive AssembleError where
  | duplicateImport (name : ImportName)
  | unsupportedKind (name : ImportName) (kind : ExternalKind)
  | indexOverflow (kind : ExternalKind)
  deriving DecidableEq, Repr

def AssembleError.message : AssembleError → String
  | .duplicateImport name =>
    "Import '" ++ name.moduleName ++ "' '" ++ name.exportName ++ "' is declared twice"
  | .unsupportedKind name kind =>
    "Import '" ++ name.moduleName ++ "' '" ++ name.exportName ++ "': " ++ kind.name ++
      " imports cannot be encoded"
  | .indexOverflow kind => "Too many " ++ kind.name ++ " imports"

/-- An import in its place: a function with the index of its type. -/
inductive Entry where
  | function (f : FunctionImport) (typeIndex : Nat)
  | resource (name : ImportName) (r : Resource)

def Entry.toImport : Entry → Import
  | .function f _ => .function f
  | .resource name r => .resource name r

/-- Only a function has a type in the type section. -/
def Entry.typeIndex? : Entry → Option Nat
  | .function _ typeIndex => some typeIndex
  | .resource _ _ => none

structure ImportTable where
  /-- The imports in the order in which they came. -/
  entries : Array Entry := #[]
  /-- The names that are taken. -/
  names : Std.HashSet ImportName := {}
  /-- The signatures that functions came with, each once and in the order in which they came. -/
  signatures : Array Signature := #[]
  /-- Where each signature stands among them. -/
  typeIndices : Std.HashMap Signature Nat := {}
  /-- The number of functions among the entries. -/
  functionCount : Nat := 0

namespace ImportTable

def empty : ImportTable := {}

/-! ### Looking -/

def imports (t : ImportTable) : List Import := t.entries.toList.map Entry.toImport

def functions (t : ImportTable) : List FunctionImport := t.imports.filterMap Import.function?

/-- The index of a signature, if it has one. -/
def typeIndex? (t : ImportTable) (s : Signature) : Option Nat := t.typeIndices[s]?

/-- The number of imports of a kind. -/
def countOf (t : ImportTable) (kind : ExternalKind) : Nat :=
  t.imports.countP fun i => i.kind = kind

/-! ### Adding -/

/-- The number of imports of one kind that a 32-bit index can count. -/
def indexLimit : Nat := UInt32.size

/-- The table with one signature more, which gets the next place. -/
def addSignature (t : ImportTable) (s : Signature) : ImportTable :=
  { t with
    signatures := t.signatures.push s
    typeIndices := t.typeIndices.insert s t.signatures.size }

/-- The index of the signature, and the table with the signature in it. A new one is refused where
no index is left. -/
def intern (t : ImportTable) (s : Signature) : Except AssembleError Nat × ImportTable :=
  match t.typeIndex? s with
  | some i => (.ok i, t)
  | none =>
    let i := t.signatures.size
    if i < indexLimit then (.ok i, t.addSignature s) else (.error (.indexOverflow .function), t)

/-- The table with one entry more, which takes its name. -/
def append (t : ImportTable) (name : ImportName) (e : Entry) : ImportTable :=
  { t with entries := t.entries.push e, names := t.names.insert name }

@[simp] theorem imports_append (t : ImportTable) (name : ImportName) (e : Entry) :
    (t.append name e).imports = t.imports ++ [e.toImport] := by
  simp [imports, append]

/-- The index of the import among those of its kind, and the table that holds it. An import whose
name is taken changes nothing. Nor is one held that no index is left for; but the signature of a
function is put into the table before its index is asked for, and stays there. -/
@[irreducible] def push (t : ImportTable) (i : Import) : Except AssembleError Nat × ImportTable :=
  if t.names.contains i.name then (.error (.duplicateImport i.name), t)
  else match i with
    | .function f =>
      match t.intern f.signature with
      | (.error e, t) => (.error e, t)
      | (.ok typeIndex, t) =>
        let index := t.functionCount
        if index + 1 < indexLimit then
          let t := { t with functionCount := index + 1 }
          (.ok index, t.append i.name (.function f typeIndex))
        else (.error (.indexOverflow .function), t)
    | .resource name r =>
      let index := t.countOf r.kind
      if index < indexLimit then (.ok index, t.append name (.resource name r))
      else (.error (.indexOverflow r.kind), t)

/-- The answers to imports pushed in turn, and the table after the last of them. -/
def pushAll (t : ImportTable) : List Import → List (Except AssembleError Nat) × ImportTable
  | [] => ([], t)
  | i :: rest =>
    let (answer, t) := t.push i
    let (answers, t) := t.pushAll rest
    (answer :: answers, t)

end ImportTable

/-! ### Encoding -/

/-- What the import section says of an entry: only functions and memories can be said. -/
def Entry.encode : Entry → Except AssembleError Binary.ImportEntry
  | .function f typeIndex => .ok ⟨f.name, .function (UInt32.ofNat typeIndex)⟩
  | .resource name (.memory limits) => .ok ⟨name, .memory limits⟩
  | .resource name r => .error (.unsupportedKind name r.kind)

/-- The type section and the import section. The first entry that cannot be encoded is the error.
More types can be added to the section after those of the imports. -/
def ImportTable.encode (t : ImportTable) :
    Except AssembleError (Binary.TypeSection × Binary.ImportSection) := do
  let entries ← t.entries.toList.mapM Entry.encode
  return (⟨t.signatures.toList⟩, ⟨entries⟩)

end Embedder
