import Embedder.BindError
import Embedder.External
import Embedder.Signature

/-!
Attempts at binding: what came of one, and the events told along the way. Once an attempt has failed
it tells nothing more.
-/

namespace Embedder

inductive Level where
  | debug | trace
  deriving DecidableEq, Repr

inductive Event where
  | parameterTranslated (index : Nat) (host : HostType) (wasm : ValueType)
  | methodBound (name : ImportName) (signature : Signature)
  | functionWrapped (name : ImportName) (signature : Signature)
  | resolutionFailed (error : ResolutionError)
  deriving DecidableEq, Repr

namespace Event

/-- Steps on the way are traced, endings are for debugging. -/
def level : Event → Level
  | .parameterTranslated .. => .trace
  | _ => .debug

def message : Event → String
  | .parameterTranslated .. => "parameter translated"
  | .methodBound .. => "host method bound"
  | .functionWrapped .. => "host function wrapped"
  | .resolutionFailed .. => "host method resolution failed"

/-- The names and signature of an import. -/
def importFields (name : ImportName) (signature : Signature) : List (String × String) :=
  [("module", name.moduleName), ("export", name.exportName), ("signature", signature.text)]

def fields : Event → List (String × String)
  | .parameterTranslated index host wasm =>
    [("index", toString index), ("host", host.text), ("wasm", wasm.name)]
  | .methodBound name signature => importFields name signature
  | .functionWrapped name signature => importFields name signature
  | .resolutionFailed error => [("error", error.message)]

end Event

structure Attempt (α : Type) where
  events : List Event
  answer : Except BindError α

namespace Attempt

/-- Tells an event. -/
def tell (e : Event) : Attempt Unit := ⟨[e], .ok ()⟩

/-- A check that tells nothing. -/
def check (answer : Except BindError α) : Attempt α := ⟨[], answer⟩

/-- What comes after is tried only if all went well so far. -/
def andThen (a : Attempt α) (next : α → Attempt β) : Attempt β :=
  match a.answer with
  | .error e => ⟨a.events, .error e⟩
  | .ok x => ⟨a.events ++ (next x).events, (next x).answer⟩

instance : Monad Attempt where
  pure x := ⟨[], .ok x⟩
  bind := andThen

end Attempt

end Embedder
