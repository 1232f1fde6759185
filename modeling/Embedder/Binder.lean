import Embedder.Attempt
import Embedder.Import
import Embedder.Method

/-!
Binding makes function imports of host callables. A described method goes through its checks in a
fixed order, and the first that fails is the answer: the names, the body, eligibility, the result
type, the parameter types from the left, and last the number of parameters. A typed function needs
the names and the number only, since its types speak for themselves.
-/

namespace Embedder

structure Binder where
  /-- The most parameters that an imported function may have. -/
  maxParams : Nat := 16
  deriving DecidableEq, Repr

/-- Both names must be there, the module name first. -/
def ImportName.check (name : ImportName) : Except BindError Unit :=
  if name.moduleName = "" then .error (.missing .moduleName)
  else if name.exportName = "" then .error (.missing .exportName)
  else .ok ()

namespace Method

/-- Why the method cannot be imported, if it cannot. -/
def ineligibility? (m : Method) : Option Ineligibility :=
  if m.visibility ≠ .shown then some .notPublic
  else if m.receiver ≠ .static then some .instanceBound
  else if m.definition ≠ .complete then some .incomplete
  else none

def checkEligible (m : Method) : Except BindError Unit :=
  match m.ineligibility? with
  | some reason => .error (.ineligible m.name reason)
  | none => .ok ()

def checkBody (m : Method) : Except BindError Callable :=
  match m.body with
  | some body => .ok body
  | none => .error (.missing .body)

end Method

/-- The value type that a declared type crosses as. -/
def HostType.translate (h : HostType) (position : Position) : Except BindError ValueType :=
  match h.valueType? with
  | some t => .ok t
  | none => .error (.unsupported h position)

/-- No result is declared by nothing or by the unit type. -/
def HostType.translateResult : Option HostType → Except BindError (Option ValueType)
  | none => .ok none
  | some .unit => .ok none
  | some h => (h.translate .result).map some

/-- Translates parameters from the left, and tells each before the next is tried. -/
def HostType.translateParams (index : Nat) : List HostType → Attempt (List ValueType)
  | [] => pure []
  | h :: rest => do
    let t ← Attempt.check (h.translate (.param index))
    Attempt.tell (.parameterTranslated index h t)
    let ts ← translateParams (index + 1) rest
    return t :: ts

namespace Binder

def checkArity (b : Binder) (name : String) (count : Nat) : Except BindError Unit :=
  if b.maxParams < count then .error (.tooManyParams name count b.maxParams) else .ok ()

/-- Binds a described method under the given names. -/
def bind (b : Binder) (name : ImportName) (m : Method) : Attempt FunctionImport := do
  Attempt.check name.check
  let body ← Attempt.check m.checkBody
  Attempt.check m.checkEligible
  let result ← Attempt.check (HostType.translateResult m.result)
  let params ← HostType.translateParams 0 m.params
  Attempt.check (b.checkArity m.name params.length)
  Attempt.tell (.methodBound name ⟨params, result⟩)
  return ⟨name, ⟨params, result⟩, body⟩

/-- Binds the method that a handle names; the handle is looked up only under good names. -/
def bindResolved (b : Binder) (name : ImportName) (resolve : ρ → Except ResolutionError Method)
    (handle : ρ) : Attempt FunctionImport := do
  Attempt.check name.check
  match resolve handle with
  | .ok m => b.bind name m
  | .error e =>
    Attempt.tell (.resolutionFailed e)
    Attempt.check (.error (.missing (.callable e)))

/-- Binds a typed function; the callable made of it gets the given key. -/
def wrap (b : Binder) (name : ImportName) (key : Nat) (f : TypedFunction) :
    Attempt FunctionImport := do
  Attempt.check name.check
  Attempt.check (b.checkArity name.exportName f.params.length)
  Attempt.tell (.functionWrapped name ⟨f.params, f.result⟩)
  return ⟨name, ⟨f.params, f.result⟩, ⟨key, .typed f⟩⟩

end Binder

end Embedder
