import Embedder.Proofs.Binder

/-!
Calls of imported functions. Arguments are checked before the callable is called and its result
after that, so a call of an import comes to one call of its callable, on arguments of the parameter
types, or to none; and what it returns is of the result type, whatever the callable returns.
-/

namespace Embedder

/-! ### Checks -/

theorem firstMismatch?_eq_none_iff {params : List ValueType} {args : List Value}
    (h : params.length = args.length) (index : Nat) :
    firstMismatch? index params args = none ↔ args.map (·.type) = params := by
  induction params generalizing args index with
  | nil =>
    cases args with
    | nil => simp [firstMismatch?]
    | cons v vs => simp at h
  | cons t ts ih =>
    cases args with
    | nil => simp at h
    | cons v vs =>
      by_cases hv : v.type = t
      · simpa [firstMismatch?, hv] using ih (by simpa using h) (index + 1)
      · simp [firstMismatch?, hv]

/-- The arguments pass just when they are of the parameter types, one for each. -/
theorem checkArguments?_eq_none_iff {params : List ValueType} {args : List Value} :
    checkArguments? params args = none ↔ args.map (·.type) = params := by
  unfold checkArguments?
  split
  · rename_i h
    exact firstMismatch?_eq_none_iff h 0
  · rename_i h
    constructor
    · intro hn
      cases hn
    · rintro rfl
      simp at h

/-- The trap finds fault with the arguments, with their number or with the type of one. -/
def Trap.BlamesArguments : Trap → Prop
  | .argumentCount .. | .argumentType .. => True
  | .resultType .. | .host .. => False

theorem blamesArguments_of_firstMismatch? {params : List ValueType} {args : List Value}
    {index : Nat} {trap : Trap} (h : firstMismatch? index params args = some trap) :
    trap.BlamesArguments := by
  fun_induction firstMismatch? index params args with
  | case1 _ _ _ _ ih => exact ih h
  | case2 =>
    cases h
    trivial
  | case3 => cases h

theorem blamesArguments_of_checkArguments? {params : List ValueType} {args : List Value}
    {trap : Trap} (h : checkArguments? params args = some trap) : trap.BlamesArguments := by
  unfold checkArguments? at h
  split at h
  · exact blamesArguments_of_firstMismatch? h
  · cases h
    trivial

/-! ### Typed functions -/

/-- Arguments of the parameter types are bits of these types, as values. -/
theorem exists_toValues : ∀ {params : List ValueType} {args : List Value},
    args.map (·.type) = params → ∃ payloads : Payloads params, payloads.toValues params = args
  | _, [], rfl => ⟨(), rfl⟩
  | _, v :: vs, rfl => by
    have ⟨rest, h⟩ : ∃ payloads, Payloads.toValues (vs.map (·.type)) payloads = vs :=
      exists_toValues rfl
    exact ⟨(v.bits, rest), congrArg (v :: ·) h⟩

/-- An argument of the type wanted is taken. -/
theorem unpackFrom_cons (wrongCount : Trap) (index : Nat) (v : Value) (ts : List ValueType)
    (vs : List Value) : unpackFrom wrongCount index (v.type :: ts) (v :: vs) =
      (unpackFrom wrongCount (index + 1) ts vs).map (v.bits, ·) := by
  rw [unpackFrom, Value.as?_mk]

/-- Bits that were made values are unpacked as they were. -/
theorem unpackFrom_toValues (wrongCount : Trap) :
    ∀ (index : Nat) (params : List ValueType) (payloads : Payloads params),
      unpackFrom wrongCount index params (payloads.toValues params) = .ok payloads
  | _, [], _ => rfl
  | index, t :: ts, (bits, rest) => by
    rw [Payloads.toValues, unpackFrom_cons wrongCount index ⟨t, bits⟩,
      unpackFrom_toValues wrongCount (index + 1) ts rest]
    rfl

/-- A typed function is run once on the bits of arguments of its parameter types. -/
theorem TypedFunction.call_toValues (g : TypedFunction) (payloads : Payloads g.params) :
    g.call (payloads.toValues g.params) =
      ⟨(g.run payloads).map (Reply.toValue? g.result), [payloads.toValues g.params]⟩ := by
  rw [call, unpack, unpackFrom_toValues]

theorem TypedFunction.runs_call {g : TypedFunction} {args : List Value}
    (h : args.map (·.type) = g.params) : (g.call args).runs = [args] := by
  obtain ⟨payloads, rfl⟩ := exists_toValues h
  rw [call_toValues]

/-! ### Imports -/

/-- The callable seen from outside: each call of it counts as a run, whatever code it holds. -/
def Callable.watched (c : Callable) : Callable :=
  ⟨c.key, .reflective fun args => (c.call args).outcome⟩

namespace FunctionImport

/-- The import with its callable seen from outside. -/
def watched (f : FunctionImport) : FunctionImport := { f with callable := f.callable.watched }

/-- On arguments of the parameter types only the result is still checked. -/
theorem call_of_types {f : FunctionImport} {args : List Value}
    (h : args.map (·.type) = f.signature.params) : f.call args =
      ⟨(f.callable.call args).outcome.bind (checkResult f.signature.result),
        (f.callable.call args).runs⟩ := by
  rw [call, checkArguments?_eq_none_iff.2 h]

theorem call_of_not_types {f : FunctionImport} {args : List Value}
    (h : args.map (·.type) ≠ f.signature.params) :
    ∃ trap : Trap, f.call args = .refused trap ∧ trap.BlamesArguments := by
  cases hc : checkArguments? f.signature.params args with
  | none => exact absurd (checkArguments?_eq_none_iff.1 hc) h
  | some trap => exact ⟨trap, by rw [call, hc], blamesArguments_of_checkArguments? hc⟩

theorem runs_call {f : FunctionImport} {args : List Value}
    (h : args.map (·.type) = f.signature.params → (f.callable.call args).runs = [args]) :
    (f.call args).runs = if args.map (·.type) = f.signature.params then [args] else [] := by
  split
  · rename_i types
    rw [call_of_types types]
    exact h types
  · rename_i types
    obtain ⟨trap, hc, -⟩ := call_of_not_types types
    rw [hc]
    rfl

/-- Seen from outside the callable is called once, on arguments of the parameter types, or not at
all. -/
theorem runs_watched_call (f : FunctionImport) (args : List Value) :
    (f.watched.call args).runs = if args.map (·.type) = f.signature.params then [args] else [] :=
  runs_call (f := f.watched) fun _ => rfl

theorem outcome_watched_call (f : FunctionImport) (args : List Value) :
    (f.watched.call args).outcome = (f.call args).outcome := by
  have same : f.watched.signature = f.signature := rfl
  rw [call, call, same]
  cases checkArguments? f.signature.params args <;> rfl

end FunctionImport

end Embedder
