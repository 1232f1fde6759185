import Embedder.Proofs.Call

/-!
A typed function can be bound as it is, or by a description that says of it what its type says. Both
ways lead to the same: the checks that a description has to pass beyond those of names and number
are ones that this description does pass, and no call tells the two imports apart, although one of
them unpacks its arguments and the other takes them as they are.
-/

namespace Embedder

/-! ### Descriptions of typed functions -/

/-- On arguments of the parameter types the callable does what the function does. On others it may
do as it likes. -/
def Callable.Does (c : Callable) (g : TypedFunction) : Prop :=
  ∀ payloads : Payloads g.params, (c.call (payloads.toValues g.params)).outcome =
    (g.run payloads).map (Reply.toValue? g.result)

/-- The method can be reached by all, declares what the function takes and returns, and its body is
the callable. That nothing is returned can be declared by nothing or by the unit type. -/
structure Method.Describes (m : Method) (g : TypedFunction) (c : Callable) : Prop where
  visibility : m.visibility = .shown
  receiver : m.receiver = .static
  definition : m.definition = .complete
  params : m.params = g.params.map .num
  result : m.result = g.result.map .num ∨ g.result = none ∧ m.result = some .unit
  body : m.body = some c

namespace Method.Describes

variable {m : Method} {g : TypedFunction} {c : Callable}

theorem declares (h : m.Describes g c) : m.Declares ⟨g.params, g.result⟩ := ⟨h.params, h.result⟩

/-- The method passes where the function does, and is bound under the type of the function. -/
theorem answer_bind (h : m.Describes g c) (b : Binder) {name : ImportName}
    (named : m.name = name.exportName) : (b.bind name m).answer =
      (b.gate name g.params.length).map fun _ => ⟨name, ⟨g.params, g.result⟩, c⟩ := by
  have body : m.checkBody = .ok c := checkBody_eq_ok_iff.2 h.body
  have eligible : m.checkEligible = .ok () :=
    checkEligible_eq_ok_iff.2 ⟨h.visibility, h.receiver, h.definition⟩
  rw [Binder.answer_bind, body, eligible, b.signature_of_declares h.declares, named]
  unfold Binder.gate
  cases name.check with
  | error e => rfl
  | ok _ =>
    show ((b.checkArity name.exportName g.params.length).map _ >>= _) = _
    cases b.checkArity name.exportName g.params.length <;> rfl

end Method.Describes

/-! ### Calls -/

/-- Imports of one type are called alike when their callables do the same on arguments of the
parameter types, since on others neither is called. -/
theorem FunctionImport.outcome_call_congr {f f' : FunctionImport}
    (signature : f.signature = f'.signature)
    (callable : ∀ args, args.map (·.type) = f.signature.params →
      (f.callable.call args).outcome = (f'.callable.call args).outcome) (args : List Value) :
    (f.call args).outcome = (f'.call args).outcome := by
  by_cases types : args.map (·.type) = f.signature.params
  · rw [call_of_types types, call_of_types (signature ▸ types), callable args types, signature]
  · rw [call, call, ← signature]
    cases h : checkArguments? f.signature.params args with
    | none => exact absurd (checkArguments?_eq_none_iff.1 h) types
    | some trap => rfl

/-- A typed function and a method that describes it, named like the export, are bound alike. Both
are where the names are there and the parameters not too many, and then under one name, with one
signature and to calls with the same outcome whatever the arguments; elsewhere both fail with the
same error. -/
theorem wrap_agrees_with_bind (b : Binder) (name : ImportName) (key : Nat) {g : TypedFunction}
    {m : Method} {c : Callable} (named : m.name = name.exportName) (describes : m.Describes g c)
    (does : c.Does g) :
    let admitted := name.moduleName ≠ "" ∧ name.exportName ≠ "" ∧ g.params.length ≤ b.maxParams
    (admitted → ∃ f f', (b.wrap name key g).answer = .ok f ∧ (b.bind name m).answer = .ok f' ∧
      f.name = f'.name ∧ f.signature = f'.signature ∧
      ∀ args, (f.call args).outcome = (f'.call args).outcome) ∧
    (¬ admitted → ∃ e,
      (b.wrap name key g).answer = .error e ∧ (b.bind name m).answer = .error e) := by
  intro admitted
  have passes : b.gate name g.params.length = .ok () ↔ admitted := Binder.gate_eq_ok_iff
  rw [b.answer_wrap, describes.answer_bind b named, ← passes]
  cases b.gate name g.params.length with
  | error e => exact ⟨(nomatch ·), fun _ => ⟨e, rfl, rfl⟩⟩
  | ok _ =>
    refine ⟨fun _ => ⟨_, _, rfl, rfl, rfl, rfl, ?_⟩, fun h => absurd rfl h⟩
    refine FunctionImport.outcome_call_congr rfl fun args types => ?_
    obtain ⟨payloads, rfl⟩ := exists_toValues types
    rw [does]
    exact congrArg Call.outcome (g.call_toValues payloads)

/-- A function that returns nothing, and a method that declares the unit type and returns something
when it is called as the function cannot be. -/
theorem wrap_agrees_with_bind_unit :
    let g : TypedFunction := ⟨[.i64], none, fun (x, _) =>
      if x = 0 then .error (.host "zero") else .ok ()⟩
    let c : Callable := ⟨1, .reflective fun args =>
      if args = [⟨.i64, 0⟩] then .error (.host "zero")
      else if args.length = 1 then .ok none else .ok args.head?⟩
    let m : Method :=
      { name := "check", params := [.num .i64], result := some .unit, body := some c }
    let name : ImportName := ⟨"env", "check"⟩
    m.name = name.exportName ∧ m.Describes g c ∧ c.Does g ∧
      (∃ f f', (({} : Binder).wrap name 0 g).answer = .ok f ∧
        (({} : Binder).bind name m).answer = .ok f' ∧
        f.name = f'.name ∧ f.signature = f'.signature ∧
        ∀ args, (f.call args).outcome = (f'.call args).outcome) ∧
      ∃ e, ((⟨0⟩ : Binder).wrap name 0 g).answer = .error e ∧
        ((⟨0⟩ : Binder).bind name m).answer = .error e := by
  intro g c m name
  have describes : m.Describes g c := ⟨rfl, rfl, rfl, rfl, .inr ⟨rfl, rfl⟩, rfl⟩
  have does : c.Does g := by
    rintro ⟨x, ⟨⟩⟩
    by_cases zero : x = 0
    · subst zero
      rfl
    · have other : [(⟨.i64, x⟩ : Value)] ≠ [⟨.i64, 0⟩] := by simpa using zero
      have returns : g.run (x, ()) = .ok () := if_neg zero
      rw [returns]
      exact (if_neg other).trans (if_pos rfl)
  refine ⟨rfl, describes, does, ?_, ?_⟩
  · exact (wrap_agrees_with_bind {} name 0 rfl describes does).1 (by decide)
  · exact (wrap_agrees_with_bind ⟨0⟩ name 0 rfl describes does).2 (by decide)

end Embedder
