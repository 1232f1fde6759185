import Embedder.Trap

/-!
Host functions. A reflective one takes any list of values and may do with it as it likes. A typed
one takes bits of the types that it declares and cannot be run on anything else: its arguments are
unpacked first, one by one, and a list that does not unpack is refused. Calling either tells the
outcome and the argument lists that the host's own code was run on.
-/

namespace Embedder

/-- What a call did: its outcome, and the argument lists the host's code was run on. -/
structure Call where
  outcome : Outcome
  runs : List (List Value)

/-- A call that failed before the host's code was run. -/
def Call.refused (trap : Trap) : Call := ⟨.error trap, []⟩

/-! ### Typed functions -/

/-- Bits for each of the given types. -/
@[reducible] def Payloads : List ValueType → Type
  | [] => Unit
  | t :: ts => BitVec t.width × Payloads ts

/-- The bits as values, each of its own type. -/
def Payloads.toValues : (types : List ValueType) → Payloads types → List Value
  | [], _ => []
  | t :: ts, (bits, rest) => ⟨t, bits⟩ :: toValues ts rest

/-- Bits of the result type, or nothing. -/
@[reducible] def Reply : Option ValueType → Type
  | none => Unit
  | some t => BitVec t.width

structure TypedFunction where
  params : List ValueType
  result : Option ValueType
  run : Payloads params → Except Trap (Reply result)

/-- Takes the arguments one by one: the first that is missing or of another type stops it, and so do
arguments left over. Both wrong counts have the same trap. -/
def unpackFrom (wrongCount : Trap) (index : Nat) :
    (params : List ValueType) → List Value → Except Trap (Payloads params)
  | [], [] => .ok ()
  | [], _ :: _ => .error wrongCount
  | _ :: _, [] => .error wrongCount
  | t :: ts, v :: vs =>
    match v.as? t with
    | none => .error (.argumentType index t v.type)
    | some bits => (unpackFrom wrongCount (index + 1) ts vs).map (bits, ·)

/-- The arguments as bits of the parameter types. -/
def unpack (params : List ValueType) (args : List Value) : Except Trap (Payloads params) :=
  unpackFrom (.argumentCount params.length args.length) 0 params args

/-- The reply as a value. -/
def Reply.toValue? : (result : Option ValueType) → Reply result → Option Value
  | none, _ => none
  | some t, bits => some ⟨t, bits⟩

def TypedFunction.call (f : TypedFunction) (args : List Value) : Call :=
  match unpack f.params args with
  | .error trap => .refused trap
  | .ok payloads => ⟨(f.run payloads).map (Reply.toValue? f.result), [args]⟩

/-! ### Callables -/

inductive Code where
  | reflective (body : List Value → Outcome)
  | typed (f : TypedFunction)

/-- Code under a key: the host gives every callable object a key of its own. -/
structure Callable where
  key : Nat
  code : Code

/-- Runs the code on the arguments as they are. -/
def Callable.call (c : Callable) (args : List Value) : Call :=
  match c.code with
  | .reflective body => ⟨body args, [args]⟩
  | .typed f => f.call args

end Embedder
