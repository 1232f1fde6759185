import Embedder.Proofs.Call.Typed

/-!
What a call of an import comes to, whatever its callable does. There are four ways to fail and an
order among them: the number of the arguments, the first wrong type, a trap of the callable itself,
a result of the wrong type. The callable is run between the second and the third. The order is told
by a relation with one rule for each way; every call has one of them, and it is the one that the
call takes.
-/

namespace Embedder

/-- The call comes to this, told from the signature, the arguments and what the body comes to on
them. -/
inductive ComesTo (s : Signature) (body : List Value → Outcome) (args : List Value) : Call → Prop
  | wrongCount : s.params.length ≠ args.length →
    ComesTo s body args (.refused (.argumentCount s.params.length args.length))
  | wrongType {i : Nat} {expected actual : ValueType} : s.params.length = args.length →
    FirstMismatch s.params args i expected actual →
    ComesTo s body args (.refused (.argumentType i expected actual))
  /-- The trap is the body's own, even one that blames the arguments or the result. -/
  | trapped {trap : Trap} : args.map (·.type) = s.params → body args = .error trap →
    ComesTo s body args ⟨.error trap, [args]⟩
  | wrongResult {v : Option Value} : args.map (·.type) = s.params → body args = .ok v →
    v.map (·.type) ≠ s.result →
    ComesTo s body args ⟨.error (.resultType s.result (v.map (·.type))), [args]⟩
  | returned {v : Option Value} : args.map (·.type) = s.params → body args = .ok v →
    v.map (·.type) = s.result → ComesTo s body args ⟨.ok v, [args]⟩

/-! ### The first mismatch -/

section Mismatch

variable {params : List ValueType} {args : List Value} {i j : Nat}
  {expected actual expected' actual' : ValueType}

theorem FirstMismatch.unique (h : FirstMismatch params args i expected actual)
    (h' : FirstMismatch params args j expected' actual') :
    i = j ∧ expected = expected' ∧ actual = actual' := by
  obtain rfl : i = j := Nat.le_antisymm (h.2 j _ _ h'.1) (h'.2 i _ _ h.1)
  have param := h.1.param.symm.trans h'.1.param
  have arg := h.1.arg.symm.trans h'.1.arg
  exact ⟨rfl, Option.some.inj param, Option.some.inj arg⟩

theorem firstMismatch?_of_firstMismatch (h : FirstMismatch params args i expected actual) :
    firstMismatch? 0 params args = some (.argumentType i expected actual) := by
  cases scan : firstMismatch? 0 params args with
  | none => exact absurd h.1 (not_mismatch scan i expected actual)
  | some trap =>
    obtain ⟨j, expected', actual', first, rfl⟩ := exists_firstMismatch scan
    obtain ⟨rfl, rfl, rfl⟩ := h.unique first
    rw [Nat.zero_add]

/-- As many arguments as parameters but not of their types: one is the first to differ. -/
theorem exists_firstMismatch_of_length (length : params.length = args.length)
    (types : args.map (·.type) ≠ params) :
    ∃ i expected actual, FirstMismatch params args i expected actual := by
  cases scan : firstMismatch? 0 params args with
  | none => exact absurd ((firstMismatch?_eq_none_iff length 0).1 scan) types
  | some trap =>
    obtain ⟨i, expected, actual, first, -⟩ := exists_firstMismatch scan
    exact ⟨i, expected, actual, first⟩

end Mismatch

/-! ### Calls -/

section Calls

variable {s : Signature} {body : List Value → Outcome} {args : List Value} {c : Call}

theorem exists_comesTo (s : Signature) (body : List Value → Outcome) (args : List Value) :
    ∃ c, ComesTo s body args c := by
  by_cases types : args.map (·.type) = s.params
  · cases ran : body args with
    | error trap => exact ⟨_, .trapped types ran⟩
    | ok v =>
      by_cases result : v.map (·.type) = s.result
      · exact ⟨_, .returned types ran result⟩
      · exact ⟨_, .wrongResult types ran result⟩
  · by_cases length : s.params.length = args.length
    · obtain ⟨i, expected, actual, first⟩ := exists_firstMismatch_of_length length types
      exact ⟨_, .wrongType length first⟩
    · exact ⟨_, .wrongCount length⟩

/-- The body's answer goes through the check of the result. -/
theorem FunctionImport.call_of_reflective {f : FunctionImport}
    (code : f.callable.code = .reflective body) (types : args.map (·.type) = f.signature.params) :
    f.call args = ⟨(body args).bind (checkResult f.signature.result), [args]⟩ := by
  rw [call_of_types types, Callable.call, code]

theorem ComesTo.call_eq {f : FunctionImport} (h : ComesTo f.signature body args c)
    (code : f.callable.code = .reflective body) : f.call args = c := by
  cases h with
  | wrongCount length => rw [FunctionImport.call, checkArguments?, if_neg length]
  | wrongType length first =>
    rw [FunctionImport.call, checkArguments?, if_pos length, firstMismatch?_of_firstMismatch first]
  | trapped types ran =>
    rw [FunctionImport.call_of_reflective code types, ran]
    rfl
  | wrongResult types ran result =>
    rw [FunctionImport.call_of_reflective code types, ran]
    exact congrArg (Call.mk · [args]) (if_neg result)
  | returned types ran result =>
    rw [FunctionImport.call_of_reflective code types, ran]
    exact congrArg (Call.mk · [args]) (if_pos result)

theorem FunctionImport.call_eq_iff_comesTo {f : FunctionImport}
    (code : f.callable.code = .reflective body) :
    f.call args = c ↔ ComesTo f.signature body args c := by
  obtain ⟨c', h⟩ := exists_comesTo f.signature body args
  constructor
  · rintro rfl
    rwa [h.call_eq code]
  · exact fun h => h.call_eq code

/-- What was returned was returned by the body, and is of the result type. -/
theorem ComesTo.of_ok {v : Option Value} (h : ComesTo s body args c) (ok : c.outcome = .ok v) :
    body args = .ok v ∧ v.map (·.type) = s.result := by
  cases h with
  | returned types ran result =>
    cases ok
    exact ⟨ran, result⟩
  | _ => cases ok

end Calls

/-- A callable with reflective code is seen from outside as it is. -/
theorem FunctionImport.watched_of_reflective {f : FunctionImport} {body : List Value → Outcome}
    (code : f.callable.code = .reflective body) : f.watched = f := by
  obtain ⟨name, s, ⟨key, _⟩⟩ := f
  cases code
  rfl

/-- For every import, whatever its callable does, and all arguments: the call comes to a wrong
number of arguments, else to the first wrong type among them, else to the trap of the callable as it
is, else to a result of the wrong type, else to what the callable returned as it is. The callable is
called once if the arguments are of the parameter types, and otherwise not at all. So what a call
returns the callable itself returns for the same arguments, and it is of the result type. -/
theorem calls_fail_in_order (f : FunctionImport) (args : List Value) :
    let direct (args : List Value) : Outcome := (f.callable.call args).outcome
    (∀ c, f.watched.call args = c ↔ ComesTo f.signature direct args c) ∧
    (f.watched.call args).runs = (if args.map (·.type) = f.signature.params then [args] else []) ∧
    (f.call args).outcome = (f.watched.call args).outcome ∧
    (∀ body, f.callable.code = .reflective body → f.call args = f.watched.call args) ∧
    ∀ v, (f.call args).outcome = .ok v →
      direct args = .ok v ∧ v.map (·.type) = f.signature.result := by
  intro direct
  have comesTo (c : Call) : f.watched.call args = c ↔ ComesTo f.signature direct args c :=
    FunctionImport.call_eq_iff_comesTo (f := f.watched) rfl
  have outcome := f.outcome_watched_call args
  refine ⟨comesTo, f.runs_watched_call args, outcome.symm, fun body code => ?_, fun v ok => ?_⟩
  · rw [FunctionImport.watched_of_reflective code]
  · exact ((comesTo _).1 rfl).of_ok (outcome.trans ok)

/-- A body that traps as if its arguments were wrong, or returns a value that it did not declare:
each of the four failures, two of them where the one before it is there as well. -/
theorem calls_fail_in_order_lying :
    let one : Value := ⟨.i32, 1⟩
    let wrong : Value := ⟨.f32, 0⟩
    let f : FunctionImport := ⟨⟨"env", "f"⟩, ⟨[.i32, .i32], some .f64⟩, ⟨0, .reflective fun args =>
      if args = [one, one] then .error (.argumentCount 7 7) else .ok args.head?⟩⟩
    f.call [wrong] = .refused (.argumentCount 2 1) ∧
      f.call [one, wrong] = .refused (.argumentType 1 .i32 .f32) ∧
      f.call [one, one] = ⟨.error (.argumentCount 7 7), [[one, one]]⟩ ∧
      f.call [one, .zero .i32] =
        ⟨.error (.resultType (some .f64) (some .i32)), [[one, .zero .i32]]⟩ := by
  intro one wrong f
  have told (args : List Value) {c : Call}
      (h : ComesTo f.signature (fun args => (f.callable.call args).outcome) args c) :
      f.call args = c := by
    obtain ⟨comesTo, -, -, same, -⟩ := calls_fail_in_order f args
    exact (same _ rfl).trans ((comesTo c).2 h)
  refine ⟨told _ (.wrongCount (by decide)), told _ (.wrongType rfl ⟨⟨rfl, rfl, by decide⟩, ?_⟩),
    told _ (.trapped rfl rfl), told _ (.wrongResult (v := some one) rfl rfl (by decide))⟩
  intro j expected actual differs
  cases j with
  | zero => exact absurd differs (not_mismatch_cons_zero (v := one))
  | succ j => exact Nat.succ_le_succ (Nat.zero_le j)

end Embedder
