import Embedder.HostType

/-! Why a host callable could not become a function import. -/

namespace Embedder

/-- A handle that names no method, and why. -/
structure ResolutionError where
  handle : String
  reason : String
  deriving DecidableEq, Repr

inductive Missing where
  | moduleName
  | exportName
  | body
  | callable (error : ResolutionError)
  deriving DecidableEq, Repr

inductive Ineligibility where
  | notPublic
  | instanceBound
  | incomplete
  deriving DecidableEq, Repr

/-- Where a type stands in a declaration. -/
inductive Position where
  | result
  | param (index : Nat)
  deriving DecidableEq, Repr

inductive BindError where
  | missing (what : Missing)
  | ineligible (name : String) (reason : Ineligibility)
  | unsupported (type : HostType) (position : Position)
  | tooManyParams (name : String) (count max : Nat)
  deriving DecidableEq, Repr

def ResolutionError.message (e : ResolutionError) : String :=
  "Unable to resolve '" ++ e.handle ++ "': " ++ e.reason

def Missing.text : Missing → String
  | .moduleName => "module name"
  | .exportName => "export name"
  | .body => "callable body"
  | .callable e => "callable: " ++ e.message

def Ineligibility.text : Ineligibility → String
  | .notPublic => "it is not public"
  | .instanceBound => "it needs an instance to be called on"
  | .incomplete => "its definition is not complete"

def Position.text : Position → String
  | .result => "return"
  | .param index => s!"parameter {index}"

def BindError.message : BindError → String
  | .missing what => "Missing " ++ what.text
  | .ineligible name reason => "'" ++ name ++ "' cannot be imported: " ++ reason.text
  | .unsupported type position => "Unsupported " ++ position.text ++ " type '" ++ type.text ++ "'"
  | .tooManyParams name count max =>
    "'" ++ name ++ s!"' takes {count} parameters but at most {max} are supported"

end Embedder
