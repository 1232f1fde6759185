import Embedder.Import
import Embedder.Text.Token

/-!
Function types, limits and imports in the text format. An import gives its two names and then what
it supplies, with the function type written out in place.
-/

namespace Embedder

namespace Text

/-- A group, or nothing where the group would hold the keyword alone. -/
def clause (keyword : String) : List ValueType → List Token
  | [] => []
  | types => Token.group (.word keyword :: types.map .type)

end Text

open Text (Token)

/-- The function type with its parameters and its result, either left out where it is empty. -/
def Signature.tokens (s : Signature) : List Token :=
  Token.group (.word "func" :: (Text.clause "param" s.params ++ Text.clause "result" s.results))

/-- The minimum, then the maximum if there is one. -/
def Limits.tokens (l : Limits) : List Token :=
  .index l.min :: l.max.toList.map .index

/-- Tables hold functions only. A global that may change says so. -/
def Resource.tokens : Resource → List Token
  | .table limits => Token.group (.word "table" :: (limits.tokens ++ [.word "funcref"]))
  | .memory limits => Token.group (.word "memory" :: limits.tokens)
  | .global type false => Token.group [.word "global", .type type]
  | .global type true => Token.group (.word "global" :: Token.group [.word "mut", .type type])

namespace Import

/-- What the import supplies. -/
def description : Import → List Token
  | .function f => f.signature.tokens
  | .resource _ r => r.tokens

def tokens (i : Import) : List Token :=
  Token.group
    (.word "import" :: .name i.name.moduleName :: .name i.name.exportName :: i.description)

end Import

/-! ### In the text format -/

def Signature.wat (s : Signature) : String := String.ofList (Token.write s.tokens)

def Limits.wat (l : Limits) : String := String.ofList (Token.write l.tokens)

def Import.wat (i : Import) : String := String.ofList (Token.write i.tokens)

/-- Rows of value types, where a type that is missing leaves its place empty: there are as many
spaces as if it were there. -/
def ValueType.watRows (rows : List (List (Option ValueType))) : String :=
  " ".intercalate (rows.map fun row => " ".intercalate (row.map fun t? => (t?.map name).getD ""))

/-- Function types on one line. -/
def Signature.watAll (ss : List Signature) : String :=
  String.ofList (Token.write (ss.flatMap tokens))

/-- Imports on one line. -/
def Import.watAll (is : List Import) : String := String.ofList (Token.write (is.flatMap tokens))

end Embedder
