import Embedder.Binder
import Embedder.ImportTable

/-!
Sessions: a host offers one thing after the other to an import table. A function is bound as it is
offered, and only what was bound is pushed. The session keeps what was told on the way and how each
push was answered.
-/

namespace Embedder

/-- What a host offers to a table: a described method, a method that a handle names or a typed
function, each with the binder that is to bind it, or something that is no function. -/
inductive Offer : Type 1 where
  | method (b : Binder) (name : ImportName) (m : Method)
  | resolved {ρ : Type} (b : Binder) (name : ImportName)
    (resolve : ρ → Except ResolutionError Method) (handle : ρ)
  | function (b : Binder) (name : ImportName) (key : Nat) (g : TypedFunction)
  | resource (name : ImportName) (r : Resource)

/-- The import that the offer is made into, where it can be. -/
def Offer.attempt : Offer → Attempt Import
  | .method b name m => return .function (← b.bind name m)
  | .resolved b name resolve handle => return .function (← b.bindResolved name resolve handle)
  | .function b name key g => return .function (← b.wrap name key g)
  | .resource name r => return .resource name r

structure Session where
  table : ImportTable := {}
  /-- The events told so far. -/
  log : List Event := []
  /-- The imports pushed so far, each with its answer. -/
  pushes : List (Import × Except AssembleError Nat) := []

namespace Session

/-- The session with an import pushed. A push tells nothing. -/
def push (s : Session) (i : Import) : Session :=
  let (answer, t) := s.table.push i
  { s with table := t, pushes := s.pushes ++ [(i, answer)] }

/-- The session after an attempt at an import: what did not come about is not pushed. -/
def after (s : Session) (a : Attempt Import) : Session :=
  let told := { s with log := s.log ++ a.events }
  match a.answer with
  | .ok i => told.push i
  | .error _ => told

/-- The session in which these offers are made in turn. -/
def run (os : List Offer) : Session := os.foldl (fun s o => s.after o.attempt) {}

end Session

end Embedder
