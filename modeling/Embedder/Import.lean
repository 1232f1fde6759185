import Embedder.Callable
import Embedder.External
import Embedder.Signature

/-!
Imports: what the host supplies to a module. Calls of an imported function are checked on both
sides, the arguments before the host's code is run and the result after it.
-/

namespace Embedder

structure FunctionImport where
  name : ImportName
  signature : Signature
  callable : Callable

/-- The trap of the first argument of a wrong type. -/
def firstMismatch? (index : Nat) : List ValueType → List Value → Option Trap
  | t :: ts, v :: vs =>
    if v.type = t then firstMismatch? (index + 1) ts vs else some (.argumentType index t v.type)
  | _, _ => none

/-- The trap of arguments that do not fit the parameters: their number comes before their types. -/
def checkArguments? (params : List ValueType) (args : List Value) : Option Trap :=
  if params.length = args.length then firstMismatch? 0 params args
  else some (.argumentCount params.length args.length)

/-- The result if it is of the type expected, where nothing is expected only nothing. -/
def checkResult (expected : Option ValueType) (result : Option Value) : Outcome :=
  if result.map (·.type) = expected then .ok result
  else .error (.resultType expected (result.map (·.type)))

/-- A call from the module: the callable is run on arguments of the parameter types only, and what
it returns is passed on only if it is of the result type. -/
def FunctionImport.call (f : FunctionImport) (args : List Value) : Call :=
  match checkArguments? f.signature.params args with
  | some trap => .refused trap
  | none =>
    let call := f.callable.call args
    { call with outcome := call.outcome.bind (checkResult f.signature.result) }

/-- What the host supplies besides functions. -/
inductive Resource where
  | table (limits : Limits)
  | memory (limits : Limits)
  | global (type : ValueType) (mutable : Bool)
  deriving DecidableEq, Repr

def Resource.kind : Resource → ExternalKind
  | .table _ => .table
  | .memory _ => .memory
  | .global _ _ => .global

/-- The type of an external thing. -/
inductive ExternalType where
  | function (signature : Signature)
  | resource (r : Resource)
  deriving DecidableEq, Repr

/-- An import as a module declares it. -/
structure Declaration where
  name : ImportName
  type : ExternalType
  deriving DecidableEq, Repr

inductive Import where
  | function (f : FunctionImport)
  | resource (name : ImportName) (r : Resource)

namespace Import

def name : Import → ImportName
  | .function f => f.name
  | .resource name _ => name

def kind : Import → ExternalKind
  | .function _ => .function
  | .resource _ r => r.kind

def function? : Import → Option FunctionImport
  | .function f => some f
  | .resource _ _ => none

/-- What can be read of an import: everything but the code behind a function. -/
def declaration : Import → Declaration
  | .function f => ⟨f.name, .function f.signature⟩
  | .resource name r => ⟨name, .resource r⟩

end Import

end Embedder
