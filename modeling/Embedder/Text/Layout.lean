import Embedder.Binary.Section
import Embedder.Import

/-!
The types and import entries of a module that declares its imports in the text format. A function
type written out in place is the first type equal to it, or else one more type at the end.
-/

namespace Embedder.Text

structure Layout where
  types : List Signature := []
  entries : List Binary.ImportEntry := []
  deriving DecidableEq, Repr

namespace Layout

/-- The layout with one declaration more. Only functions and memories can be laid out. -/
def step (l : Layout) (d : Declaration) : Option Layout :=
  match d.type with
  | .function s =>
    let types := if s ∈ l.types then l.types else l.types ++ [s]
    some ⟨types, l.entries ++ [⟨d.name, .function (UInt32.ofNat (l.types.idxOf s))⟩]⟩
  | .resource (.memory limits) => some { l with entries := l.entries ++ [⟨d.name, .memory limits⟩] }
  | .resource _ => none

/-- The layout of declarations in the order in which they stand. -/
def ofDeclarations? (ds : List Declaration) : Option Layout := ds.foldlM step {}

end Layout

end Embedder.Text
