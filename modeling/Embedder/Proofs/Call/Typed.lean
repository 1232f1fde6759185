import Embedder.Proofs.Call
import Embedder.Proofs.Except

/-!
Two ways to call a wrapped function. A call of the import checks the arguments as a whole, a call of
its callable takes them one by one; both run the function on arguments of the parameter types and on
no others, and then return the same. What sets them apart is which fault they find first where there
are two: taken one by one a wrong type comes before a wrong number, as a whole it is the other way
round.
-/

namespace Embedder

/-! ### Wrong types -/

/-- An argument is given for a parameter, and is of another type. -/
structure Mismatch (params : List ValueType) (args : List Value) (i : Nat)
    (expected actual : ValueType) : Prop where
  param : params[i]? = some expected
  arg : args[i]?.map (·.type) = some actual
  differ : actual ≠ expected

/-- The same, and none before it is. -/
def FirstMismatch (params : List ValueType) (args : List Value) (i : Nat)
    (expected actual : ValueType) : Prop :=
  Mismatch params args i expected actual ∧ ∀ j e a, Mismatch params args j e a → i ≤ j

section Scan

variable {params ts : List ValueType} {args vs : List Value} {t expected actual : ValueType}
  {v : Value} {i index : Nat} {trap : Trap}

theorem mismatch_cons_succ :
    Mismatch (t :: ts) (v :: vs) (i + 1) expected actual ↔ Mismatch ts vs i expected actual :=
  ⟨fun ⟨param, arg, differ⟩ => ⟨param, arg, differ⟩,
    fun ⟨param, arg, differ⟩ => ⟨param, arg, differ⟩⟩

theorem not_mismatch_cons_zero : ¬ Mismatch (v.type :: ts) (v :: vs) 0 expected actual := by
  rintro ⟨param, arg, differ⟩
  cases param
  cases arg
  exact differ rfl

/-- The scan stops at the first argument of a wrong type. -/
theorem exists_firstMismatch (h : firstMismatch? index params args = some trap) :
    ∃ i expected actual, FirstMismatch params args i expected actual ∧
      trap = .argumentType (index + i) expected actual := by
  fun_induction firstMismatch? index params args with
  | case1 index ts v vs ih =>
    obtain ⟨i, expected, actual, ⟨wrong, least⟩, rfl⟩ := ih h
    refine ⟨i + 1, expected, actual, ⟨mismatch_cons_succ.2 wrong, fun j e a hj => ?_⟩, ?_⟩
    · cases j with
      | zero => exact absurd hj not_mismatch_cons_zero
      | succ j => exact Nat.succ_le_succ (least j e a (mismatch_cons_succ.1 hj))
    · rw [Nat.add_right_comm, Nat.add_assoc]
  | case2 index t ts v vs ne =>
    cases h
    exact ⟨0, t, v.type, ⟨⟨rfl, rfl, ne⟩, fun j _ _ _ => Nat.zero_le j⟩, rfl⟩
  | case3 => cases h

/-- Where it does not stop there is none. -/
theorem not_mismatch (h : firstMismatch? index params args = none) (i : Nat)
    (expected actual : ValueType) : ¬ Mismatch params args i expected actual := by
  fun_induction firstMismatch? index params args generalizing i with
  | case1 index ts v vs ih =>
    cases i with
    | zero => exact not_mismatch_cons_zero
    | succ i => exact fun wrong => ih h i (mismatch_cons_succ.1 wrong)
  | case2 => cases h
  | case3 params index args unpaired =>
    rintro ⟨param, arg, -⟩
    cases params with
    | nil => cases param
    | cons t ts =>
      cases args with
      | nil => cases arg
      | cons v vs => exact unpaired t ts v vs rfl rfl

/-! ### One by one -/

theorem unpackFrom_of_firstMismatch? (h : firstMismatch? index params args = some trap)
    (wrongCount : Trap) : unpackFrom wrongCount index params args = .error trap := by
  fun_induction firstMismatch? index params args with
  | case1 index ts v vs ih =>
    rw [unpackFrom_cons, ih h]
    rfl
  | case2 index t ts v vs ne =>
    cases h
    have other : v.as? t = none := dif_neg ne
    rw [unpackFrom, other]
  | case3 => cases h

/-- Where no type is wrong only the number can be. -/
theorem unpackFrom_of_length_ne (h : firstMismatch? index params args = none)
    (ne : params.length ≠ args.length) (wrongCount : Trap) :
    unpackFrom wrongCount index params args = .error wrongCount := by
  fun_induction firstMismatch? index params args with
  | case1 index ts v vs ih =>
    rw [unpackFrom_cons, ih h (by simpa using ne)]
    rfl
  | case2 => cases h
  | case3 params index args unpaired =>
    -- one of the lists has ended; the other goes on, since their lengths differ
    cases params with
    | nil =>
      cases args with
      | nil => exact absurd rfl ne
      | cons v vs => rfl
    | cons t ts =>
      cases args with
      | nil => rfl
      | cons v vs => exact absurd rfl (unpaired t ts v vs rfl)

end Scan

/-- The faults of arguments that are taken one by one: a wrong type where there is one, and else the
number. -/
inductive FirstFault (params : List ValueType) (args : List Value) : Trap → Prop
  | type {i : Nat} {expected actual : ValueType} : FirstMismatch params args i expected actual →
    FirstFault params args (.argumentType i expected actual)
  | count : (∀ i expected actual, ¬ Mismatch params args i expected actual) →
    FirstFault params args (.argumentCount params.length args.length)

/-- Arguments that are not of the parameter types are refused both ways, and for the same fault if
their number is right. -/
theorem exists_firstFault {params : List ValueType} {args : List Value}
    (h : args.map (·.type) ≠ params) : ∃ trap, FirstFault params args trap ∧
      unpack params args = .error trap ∧ checkArguments? params args =
        some (if params.length = args.length then trap
          else .argumentCount params.length args.length) := by
  rw [unpack, checkArguments?]
  cases scan : firstMismatch? 0 params args with
  | some trap =>
    obtain ⟨i, expected, actual, first, rfl⟩ := exists_firstMismatch scan
    rw [Nat.zero_add] at scan ⊢
    refine ⟨_, .type first, unpackFrom_of_firstMismatch? scan _, ?_⟩
    split <;> rfl
  | none =>
    have ne : params.length ≠ args.length := by
      intro length
      exact h ((firstMismatch?_eq_none_iff length 0).1 scan)
    refine ⟨_, .count (not_mismatch scan), unpackFrom_of_length_ne scan ne _, ?_⟩
    rw [if_neg ne, if_neg ne]

/-! ### Wrapped functions -/

/-- What a typed function replies is of its result type, as a value. -/
theorem bind_checkResult_toValue? {result : Option ValueType} (ran : Except Trap (Reply result)) :
    (ran.map (Reply.toValue? result)).bind (checkResult result) =
      ran.map (Reply.toValue? result) := by
  cases ran with
  | error trap => rfl
  | ok reply =>
    show checkResult result (Reply.toValue? result reply) = .ok (Reply.toValue? result reply)
    cases result <;> exact if_pos rfl

/-- No fault of the arguments is one of the result. -/
theorem FirstFault.ne_resultType {params : List ValueType} {args : List Value} {trap : Trap}
    (h : FirstFault params args trap) (expected actual : Option ValueType) :
    trap ≠ .resultType expected actual := by
  rintro rfl
  cases h

/-- The import has the type of the function, and a call of its callable is one of the function. -/
structure FunctionImport.Wraps (f : FunctionImport) (g : TypedFunction) : Prop where
  signature : f.signature = ⟨g.params, g.result⟩
  callable : ∀ args, f.callable.call args = g.call args

theorem Binder.wraps_of_wrap {b : Binder} {name : ImportName} {key : Nat} {g : TypedFunction}
    {f : FunctionImport} (h : (b.wrap name key g).answer = .ok f) : f.Wraps g := by
  obtain ⟨-, rfl⟩ := answer_wrap_eq_ok_iff.1 h
  exact ⟨rfl, fun _ => rfl⟩

namespace FunctionImport.Wraps

variable {f : FunctionImport} {g : TypedFunction} {args : List Value}

theorem calls_of_types (h : f.Wraps g) (types : args.map (·.type) = g.params) :
    ∃ payloads : Payloads g.params, payloads.toValues g.params = args ∧
      f.callable.call args = ⟨(g.run payloads).map (Reply.toValue? g.result), [args]⟩ ∧
      f.call args = f.callable.call args := by
  obtain ⟨payloads, values⟩ := exists_toValues types
  have ran : f.callable.call args = ⟨(g.run payloads).map (Reply.toValue? g.result), [args]⟩ := by
    rw [h.callable, ← values, g.call_toValues]
  have signed : args.map (·.type) = f.signature.params := by rw [h.signature, types]
  refine ⟨payloads, values, ran, ?_⟩
  rw [call_of_types signed, ran, h.signature]
  dsimp only
  rw [bind_checkResult_toValue?]

theorem calls_of_not_types (h : f.Wraps g) (types : args.map (·.type) ≠ g.params) :
    ∃ trap, FirstFault g.params args trap ∧ f.callable.call args = .refused trap ∧
      f.call args = .refused (if g.params.length = args.length then trap
        else .argumentCount g.params.length args.length) := by
  obtain ⟨trap, fault, unpacked, checked⟩ := exists_firstFault types
  refine ⟨trap, fault, ?_, ?_⟩
  · rw [h.callable, TypedFunction.call, unpacked]
  · rw [call, h.signature, checked]

end FunctionImport.Wraps

/-- However a wrapped function is called, by its import or by its callable: on arguments of its
parameter types it is run once and the outcome is its own, so that a wrong result can only be a trap
that it chose itself. All other arguments are refused unseen. The callable finds fault with the
first wrong type, if there is one, and else with the number; the import does the same where the
number is right, and finds fault with that where it is not. -/
theorem checked_call_agrees_with_direct {b : Binder} {name : ImportName} {key : Nat}
    {g : TypedFunction} {f : FunctionImport} (h : (b.wrap name key g).answer = .ok f)
    (args : List Value) :
    (args.map (·.type) = g.params → ∃ payloads : Payloads g.params,
      payloads.toValues g.params = args ∧
      f.callable.call args = ⟨(g.run payloads).map (Reply.toValue? g.result), [args]⟩ ∧
      f.call args = f.callable.call args) ∧
    (args.map (·.type) ≠ g.params → ∃ trap, FirstFault g.params args trap ∧
      f.callable.call args = .refused trap ∧
      f.call args = .refused (if g.params.length = args.length then trap
        else .argumentCount g.params.length args.length)) ∧
    ∀ expected actual, (f.call args).outcome = .error (.resultType expected actual) ∨
        (f.callable.call args).outcome = .error (.resultType expected actual) →
      ∃ payloads : Payloads g.params, payloads.toValues g.params = args ∧
        g.run payloads = .error (.resultType expected actual) := by
  have wraps := Binder.wraps_of_wrap h
  refine ⟨wraps.calls_of_types, wraps.calls_of_not_types, fun expected actual trapped => ?_⟩
  by_cases types : args.map (·.type) = g.params
  · obtain ⟨payloads, values, ran, same⟩ := wraps.calls_of_types types
    rw [same, or_self, ran] at trapped
    exact ⟨payloads, values, map_eq_error_iff.1 trapped⟩
  · obtain ⟨trap, fault, ran, checked⟩ := wraps.calls_of_not_types types
    rw [ran, checked] at trapped
    rcases trapped with e | e
    · split at e
      · exact absurd (Except.error.inj e) (fault.ne_resultType expected actual)
      · cases e
    · exact absurd (Except.error.inj e) (fault.ne_resultType expected actual)

/-- Where a wrong type and a wrong number meet, each way of calling finds another fault. -/
theorem checked_call_agrees_with_direct_divide :
    let g : TypedFunction := ⟨[.i32, .i32], some .i32, fun (x, y, _) =>
      if y = 0 then .error (.host "division by zero") else .ok (x.sdiv y)⟩
    let f : FunctionImport := ⟨⟨"env", "div"⟩, ⟨[.i32, .i32], some .i32⟩, ⟨0, .typed g⟩⟩
    let six : Value := ⟨.i32, 6⟩
    let zero : Value := ⟨.i32, 0⟩
    let wrong : Value := ⟨.f32, 0⟩
    (({} : Binder).wrap ⟨"env", "div"⟩ 0 g).answer = .ok f ∧
      f.call [six, zero] = ⟨.error (.host "division by zero"), [[six, zero]]⟩ ∧
      f.callable.call [six, wrong, six] = .refused (.argumentType 1 .i32 .f32) ∧
      f.call [six, wrong, six] = .refused (.argumentCount 2 3) := by
  intro g f six zero wrong
  have bound : (({} : Binder).wrap ⟨"env", "div"⟩ 0 g).answer = .ok f := rfl
  obtain ⟨runs, -, -⟩ := checked_call_agrees_with_direct bound [six, zero]
  obtain ⟨⟨x, y, ⟨⟩⟩, values, ran, same⟩ := runs rfl
  have bits : [(⟨.i32, x⟩ : Value), ⟨.i32, y⟩] = [⟨.i32, 6⟩, ⟨.i32, 0⟩] := values
  cases bits
  obtain ⟨-, refuses, -⟩ := checked_call_agrees_with_direct bound [six, wrong, six]
  obtain ⟨trap, -, direct, checked⟩ := refuses (by decide)
  have first : f.callable.call [six, wrong, six] = .refused (.argumentType 1 .i32 .f32) := rfl
  exact ⟨bound, same.trans ran, first, checked⟩

end Embedder
