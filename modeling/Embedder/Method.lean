import Embedder.Callable
import Embedder.HostType
import Embedder.Text.Quoted

/-!
What a host says of a callable that it offers by description: how it can be reached, what it
declares to take and return, and the code to run if there is any.
-/

namespace Embedder

inductive Visibility where
  | shown | hidden
  deriving DecidableEq, Repr

/-- Whether the callable stands alone or needs an instance to be called on. -/
inductive Receiver where
  | static | bound
  deriving DecidableEq, Repr

inductive Definition where
  | complete | underConstruction
  deriving DecidableEq, Repr

structure Method where
  name : String
  visibility : Visibility := .shown
  receiver : Receiver := .static
  definition : Definition := .complete
  params : List HostType := []
  /-- No declared result and the unit type are different declarations of the same thing. -/
  result : Option HostType := none
  body : Option Callable := none

/-! ### Descriptions -/

def Visibility.title : Visibility → String
  | .shown => "Public"
  | .hidden => "Private"

def Receiver.title : Receiver → String
  | .static => "Static"
  | .bound => "Instance"

def Definition.title : Definition → String
  | .complete => "Complete"
  | .underConstruction => "UnderConstruction"

/-- The type as it stands in descriptions, where the names of structures are quoted. -/
def HostType.describe : HostType → List Char
  | .num t => t.title.toList
  | .i8 => "I8".toList
  | .i16 => "I16".toList
  | .u8 => "U8".toList
  | .u16 => "U16".toList
  | .u32 => "U32".toList
  | .u64 => "U64".toList
  | .bool => "Bool".toList
  | .char => "Char".toList
  | .str => "Str".toList
  | .unit => "Unit".toList
  | .struct name => "Struct(".toList ++ Text.Quoting.description.quote name ++ [')']
  | .option inner => "Option(".toList ++ inner.describe ++ [')']
  | .array element => "Array(".toList ++ element.describe ++ [')']

/-- Types with a comma and a space between them. -/
def HostType.describeAll : List HostType → List Char
  | [] => []
  | [h] => h.describe
  | h :: rest => h.describe ++ ',' :: ' ' :: describeAll rest

/-- The declared result, or that there is none. -/
def HostType.describeResult : Option HostType → List Char
  | none => "None".toList
  | some h => "Some(".toList ++ h.describe ++ [')']

namespace Method

/-- All that is known of the method on one line; of the body only whether there is one. -/
def describe (m : Method) : List Char :=
  "HostMethod \x7b name: ".toList ++ Text.Quoting.description.quote m.name ++
  ", visibility: ".toList ++ m.visibility.title.toList ++
  ", receiver: ".toList ++ m.receiver.title.toList ++
  ", definition: ".toList ++ m.definition.title.toList ++
  ", params: [".toList ++ HostType.describeAll m.params ++
  "], result: ".toList ++ HostType.describeResult m.result ++
  ", body: ".toList ++ (toString m.body.isSome).toList ++ " \x7d".toList

/-- The description as text. -/
def description (m : Method) : String := String.ofList m.describe

end Method

end Embedder
