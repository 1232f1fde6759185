import Embedder.Proofs.Call.Checked

/-!
What it means that calls of an import go by a type, and that they all go by their own signature. The
callable is called on arguments of the parameter types and on no others. What the call then comes to
is told by the code that the callable holds: by the body, where that takes any list of values, and
by the function, where that takes bits of its own types.
-/

namespace Embedder.FunctionImport

/-- The callable holds code that was written for the import: it is reflective, or the import wraps a
typed function. The other imports are bound to a callable that was made for another. -/
inductive HasOwnCode (f : FunctionImport) : Prop where
  | reflective {body : List Value → Outcome} : f.callable.code = .reflective body → HasOwnCode f
  | typed {b : Binder} {name : ImportName} {key : Nat} {g : TypedFunction} :
    (b.wrap name key g).answer = .ok f → HasOwnCode f

/-- Calls of the import go as those of a function of the given type must. -/
structure Honours (f : FunctionImport) (s : Signature) : Prop where
  /-- The callable is called once and on the arguments as they are if they are of the parameter
  types, and otherwise not at all. -/
  callable : ∀ args,
    (f.watched.call args).runs = if args.map (·.type) = s.params then [args] else []
  /-- What the call comes to is told by what the callable comes to on these arguments. -/
  comesTo : ∀ args c, f.watched.call args = c ↔
    ComesTo s (fun args => (f.callable.call args).outcome) args c
  /-- That is how the import itself calls it: the outcome is the same. -/
  outcome : ∀ args, (f.watched.call args).outcome = (f.call args).outcome
  /-- Then code of the import's own is run once, too. -/
  code : f.HasOwnCode →
    ∀ args, (f.call args).runs = if args.map (·.type) = s.params then [args] else []
  /-- A reflective body is run on the arguments as they are. Its traps are passed on, and so is what
  it returns if that is of the result type. -/
  reflective : ∀ body, f.callable.code = .reflective body →
    ∀ args c, f.call args = c ↔ ComesTo s body args c
  /-- A typed function of the given type is run on the bits of the arguments, and what it replies is
  passed on as a value. -/
  typed : ∀ g, f.callable.code = .typed g → s = ⟨g.params, g.result⟩ →
    ∀ args, args.map (·.type) = s.params → ∃ payloads : Payloads g.params,
      payloads.toValues g.params = args ∧
      f.call args = ⟨(g.run payloads).map (Reply.toValue? g.result), [args]⟩
  /-- Other arguments are refused for their number or their types, and nothing is run. -/
  refuses : ∀ args, args.map (·.type) ≠ s.params →
    ∃ trap : Trap, f.call args = .refused trap ∧ trap.BlamesArguments
  /-- What is returned is of the result type, and nothing where there is none. -/
  result : ∀ args v, (f.call args).outcome = .ok v → v.map (·.type) = s.result

/-- Own code is run by every call of the callable on arguments of the parameter types. -/
theorem HasOwnCode.runs_callable_call {f : FunctionImport} (h : f.HasOwnCode) {args : List Value}
    (types : args.map (·.type) = f.signature.params) : (f.callable.call args).runs = [args] := by
  cases h with
  | reflective h => rw [Callable.call, h]
  | typed h =>
    obtain ⟨-, rfl⟩ := Binder.answer_wrap_eq_ok_iff.1 h
    exact TypedFunction.runs_call types

/-- An import whose code is a function of its own signature wraps that function. -/
theorem wraps_of_code {f : FunctionImport} {g : TypedFunction} (code : f.callable.code = .typed g)
    (signature : f.signature = ⟨g.params, g.result⟩) : f.Wraps g :=
  ⟨signature, fun args => by rw [Callable.call, code]⟩

theorem result_of_outcome_ok {f : FunctionImport} {args : List Value} {v : Option Value}
    (h : (f.call args).outcome = .ok v) : v.map (·.type) = f.signature.result := by
  rw [← f.outcome_watched_call args] at h
  exact (((f.watched.call_eq_iff_comesTo rfl).1 rfl).of_ok h).2

/-- Every import honours its signature, whatever its callable does. -/
theorem honours (f : FunctionImport) : f.Honours f.signature where
  callable := f.runs_watched_call
  comesTo args c := f.watched.call_eq_iff_comesTo rfl
  outcome := f.outcome_watched_call
  code h _ := runs_call h.runs_callable_call
  reflective _ code _ _ := f.call_eq_iff_comesTo code
  typed g code signature args types := by
    have wraps := wraps_of_code code signature
    rw [signature] at types
    obtain ⟨payloads, values, ran, same⟩ := wraps.calls_of_types types
    exact ⟨payloads, values, same.trans ran⟩
  refuses _ := call_of_not_types
  result _ _ := result_of_outcome_ok

end Embedder.FunctionImport
