import Embedder.Binder
import Embedder.Proofs.Except

/-!
What a method or a typed function is bound to, and when. Every import built by a binder has been
checked, whichever way it was built: both names are there and its parameters are no more than the
binder allows.
-/

namespace Embedder

/-- The parts of an attempt are answered in turn, whatever is told in between. -/
theorem Attempt.answer_bind (a : Attempt α) (next : α → Attempt β) :
    (a >>= next).answer = a.answer >>= fun x => (next x).answer := by
  show (a.andThen next).answer = _
  unfold andThen
  cases a.answer <;> rfl

/-- An attempt succeeds when its first part does and then what follows. -/
theorem Attempt.answer_bind_eq_ok_iff {a : Attempt α} {next : α → Attempt β} {y : β} :
    (a >>= next).answer = .ok y ↔ ∃ x, a.answer = .ok x ∧ (next x).answer = .ok y := by
  rw [answer_bind, bind_eq_ok_iff]

/-- A check that succeeds found both names. -/
theorem ImportName.check_eq_ok_iff {name : ImportName} :
    name.check = .ok () ↔ name.moduleName ≠ "" ∧ name.exportName ≠ "" := by
  unfold check
  split
  · simp_all
  split
  · simp_all
  · simp_all

theorem Binder.checkArity_eq_ok_iff {b : Binder} {name : String} {count : Nat} :
    b.checkArity name count = .ok () ↔ count ≤ b.maxParams := by
  unfold checkArity
  split
  · simp only [reduceCtorEq, false_iff]
    omega
  · simp only [true_iff]
    omega

/-! ### Declared types -/

namespace HostType

theorem translate_eq_ok_iff {h : HostType} {position : Position} {t : ValueType} :
    h.translate position = .ok t ↔ h = .num t := by
  rw [← valueType?_eq_some_iff]
  unfold translate
  cases h.valueType? <;> simp

theorem translateResult_eq_ok_iff {declared : Option HostType} {result : Option ValueType} :
    translateResult declared = .ok result ↔
      declared = result.map .num ∨ result = none ∧ declared = some .unit := by
  unfold translateResult
  split
  · cases result <;> simp
  · cases result <;> simp
  · rename_i h other
    cases ht : h.translate .result with
    | error e =>
      have not_num (t : ValueType) : h ≠ .num t := fun hn => by
        simp [translate_eq_ok_iff.2 hn] at ht
      cases result with
      | none => simpa [Except.map] using other
      | some t => simp [Except.map, not_num]
    | ok t =>
      obtain rfl := translate_eq_ok_iff.1 ht
      cases result <;> simp [Except.map]

/-- The first parameter is translated, and then the others. -/
theorem answer_translateParams_cons (index : Nat) (h : HostType) (rest : List HostType) :
    (translateParams index (h :: rest)).answer =
      (h.translate (.param index) >>= fun t =>
        (translateParams (index + 1) rest).answer.map (t :: ·)) := by
  rw [translateParams]
  simp only [Attempt.answer_bind, Attempt.check]
  cases h.translate (.param index) with
  | error e => rfl
  | ok t =>
    show ((translateParams (index + 1) rest).answer >>= fun ts => _) = _
    cases (translateParams (index + 1) rest).answer <;> rfl

/-- Parameters that are translated are numeric types, and these cross as they are. -/
theorem answer_translateParams_eq_ok_iff {index : Nat} {params : List HostType}
    {ts : List ValueType} :
    (translateParams index params).answer = .ok ts ↔ params = ts.map .num := by
  induction params generalizing index ts with
  | nil => cases ts <;> simp [translateParams, pure]
  | cons h rest ih =>
    rw [answer_translateParams_cons, bind_eq_ok_iff]
    simp only [translate_eq_ok_iff, map_eq_ok_iff, ih]
    constructor
    · rintro ⟨t, rfl, ts, rfl, rfl⟩
      rfl
    · intro declared
      cases ts with
      | nil => cases declared
      | cons t ts =>
        cases declared
        exact ⟨t, rfl, ts, rfl, rfl⟩

end HostType

/-- The method declares the types of the signature, the parameters in their order. That there is no
result is declared by nothing or by the unit type. -/
structure Method.Declares (m : Method) (s : Signature) : Prop where
  params : m.params = s.params.map .num
  result : m.result = s.result.map .num ∨ s.result = none ∧ m.result = some .unit

/-! ### Described methods -/

namespace Method

variable {m : Method}

theorem checkBody_eq_ok_iff {c : Callable} : m.checkBody = .ok c ↔ m.body = some c := by
  unfold checkBody
  cases m.body <;> simp

theorem checkEligible_eq_ok_iff : m.checkEligible = .ok () ↔
    m.visibility = .shown ∧ m.receiver = .static ∧ m.definition = .complete := by
  unfold checkEligible ineligibility?
  split <;> grind

end Method

namespace Binder

/-- The signature that a method declares, if all of its types cross the boundary and the parameters
are not too many. -/
def signature (b : Binder) (m : Method) : Except BindError Signature := do
  let result ← HostType.translateResult m.result
  let params ← (HostType.translateParams 0 m.params).answer
  b.checkArity m.name params.length
  return ⟨params, result⟩

theorem signature_of_declares (b : Binder) {m : Method} {s : Signature} (h : m.Declares s) :
    b.signature m = (b.checkArity m.name s.params.length).map fun _ => s := by
  have result := HostType.translateResult_eq_ok_iff.2 h.result
  have params : (HostType.translateParams 0 m.params).answer = .ok s.params :=
    HostType.answer_translateParams_eq_ok_iff.2 h.params
  unfold signature
  rw [result, params]
  rfl

theorem signature_eq_ok_iff {b : Binder} {m : Method} {s : Signature} :
    b.signature m = .ok s ↔ m.Declares s ∧ s.params.length ≤ b.maxParams := by
  constructor
  · intro h
    unfold signature at h
    obtain ⟨result, hr, h⟩ := bind_eq_ok_iff.1 h
    obtain ⟨params, hp, h⟩ := bind_eq_ok_iff.1 h
    obtain ⟨_, arity, h⟩ := bind_eq_ok_iff.1 h
    cases h
    have params := HostType.answer_translateParams_eq_ok_iff.1 hp
    exact ⟨⟨params, HostType.translateResult_eq_ok_iff.1 hr⟩, checkArity_eq_ok_iff.1 arity⟩
  · rintro ⟨declares, arity⟩
    rw [signature_of_declares b declares, checkArity_eq_ok_iff.2 arity]
    rfl

/-- A method goes through its checks in turn, whatever is told in between. -/
theorem answer_bind (b : Binder) (name : ImportName) (m : Method) : (b.bind name m).answer = do
    name.check
    let body ← m.checkBody
    m.checkEligible
    let s ← b.signature m
    return ⟨name, s, body⟩ := by
  unfold bind signature
  simp only [Attempt.answer_bind, bind_assoc, pure_bind]
  rfl

theorem answer_bind_eq_ok_iff {b : Binder} {name : ImportName} {m : Method} {f : FunctionImport} :
    (b.bind name m).answer = .ok f ↔
      name.check = .ok () ∧ m.body = some f.callable ∧ m.checkEligible = .ok () ∧
      (m.Declares f.signature ∧ f.signature.params.length ≤ b.maxParams) ∧ f.name = name := by
  rw [answer_bind]
  simp only [bind_eq_ok_iff, Method.checkBody_eq_ok_iff, signature_eq_ok_iff]
  constructor
  · rintro ⟨_, named, body, hb, _, eligible, s, hs, h⟩
    cases h
    exact ⟨named, hb, eligible, hs, rfl⟩
  · rintro ⟨named, hb, eligible, hs, rfl⟩
    exact ⟨(), named, f.callable, hb, (), eligible, f.signature, hs, rfl⟩

end Binder

/-! ### Typed functions -/

namespace Binder

/-- What every way of binding checks: the names, and at last the number of parameters. -/
def gate (b : Binder) (name : ImportName) (count : Nat) : Except BindError Unit := do
  name.check
  b.checkArity name.exportName count

theorem gate_eq_ok_iff {b : Binder} {name : ImportName} {count : Nat} :
    b.gate name count = .ok () ↔
      name.moduleName ≠ "" ∧ name.exportName ≠ "" ∧ count ≤ b.maxParams := by
  have arity : b.checkArity name.exportName count = .ok () ↔ count ≤ b.maxParams :=
    checkArity_eq_ok_iff
  rw [← and_assoc, ← ImportName.check_eq_ok_iff, ← arity]
  constructor
  · exact fun h => (bind_eq_ok_iff.1 h).elim fun _ => id
  · exact fun h => bind_eq_ok_iff.2 ⟨(), h⟩

/-- A typed function is bound as it is where it passes. -/
theorem answer_wrap (b : Binder) (name : ImportName) (key : Nat) (g : TypedFunction) :
    (b.wrap name key g).answer =
      (b.gate name g.params.length).map fun _ => ⟨name, ⟨g.params, g.result⟩, ⟨key, .typed g⟩⟩ := by
  unfold wrap gate
  simp only [Attempt.answer_bind]
  show (name.check >>= fun _ => b.checkArity name.exportName g.params.length >>= fun _ => _) = _
  cases name.check with
  | error e => rfl
  | ok _ => cases b.checkArity name.exportName g.params.length <;> rfl

theorem answer_wrap_eq_ok_iff {b : Binder} {name : ImportName} {key : Nat} {g : TypedFunction}
    {f : FunctionImport} : (b.wrap name key g).answer = .ok f ↔
      b.gate name g.params.length = .ok () ∧ f = ⟨name, ⟨g.params, g.result⟩, ⟨key, .typed g⟩⟩ := by
  rw [answer_wrap]
  cases b.gate name g.params.length with
  | error e => simp [Except.map]
  | ok _ => simp [Except.map, eq_comm]

/-! ### Imports that a binder builds -/

/-- The binder builds the import, of a described method, of one that a handle names, or of a typed
function. -/
inductive Builds (b : Binder) : FunctionImport → Prop where
  | bind {name : ImportName} {m : Method} {f : FunctionImport} :
    (b.bind name m).answer = .ok f → Builds b f
  | bindResolved {name : ImportName} {ρ : Type} {resolve : ρ → Except ResolutionError Method}
    {handle : ρ} {f : FunctionImport} :
    (b.bindResolved name resolve handle).answer = .ok f → Builds b f
  | wrap {name : ImportName} {key : Nat} {g : TypedFunction} {f : FunctionImport} :
    (b.wrap name key g).answer = .ok f → Builds b f

/-- What a binder promises of an import. -/
structure Checked (b : Binder) (f : FunctionImport) : Prop where
  moduleName : f.name.moduleName ≠ ""
  exportName : f.name.exportName ≠ ""
  params : f.signature.params.length ≤ b.maxParams

theorem checked_of_bind {b : Binder} {name : ImportName} {m : Method} {f : FunctionImport}
    (h : (b.bind name m).answer = .ok f) : b.Checked f := by
  obtain ⟨named, -, -, ⟨-, arity⟩, rfl⟩ := answer_bind_eq_ok_iff.1 h
  obtain ⟨hm, he⟩ := ImportName.check_eq_ok_iff.1 named
  exact ⟨hm, he, arity⟩

theorem checked_of_wrap {b : Binder} {name : ImportName} {key : Nat} {g : TypedFunction}
    {f : FunctionImport} (h : (b.wrap name key g).answer = .ok f) : b.Checked f := by
  obtain ⟨passes, rfl⟩ := answer_wrap_eq_ok_iff.1 h
  obtain ⟨hm, he, hp⟩ := gate_eq_ok_iff.1 passes
  exact ⟨hm, he, hp⟩

theorem checked_of_bindResolved {b : Binder} {name : ImportName}
    {resolve : ρ → Except ResolutionError Method} {handle : ρ} {f : FunctionImport}
    (h : (b.bindResolved name resolve handle).answer = .ok f) : b.Checked f := by
  obtain ⟨_, -, h⟩ := Attempt.answer_bind_eq_ok_iff.1 h
  split at h
  · exact checked_of_bind h
  · obtain ⟨_, -, h⟩ := Attempt.answer_bind_eq_ok_iff.1 h
    cases h

theorem Builds.checked {b : Binder} {f : FunctionImport} (h : b.Builds f) : b.Checked f := by
  cases h with
  | bind h => exact checked_of_bind h
  | bindResolved h => exact checked_of_bindResolved h
  | wrap h => exact checked_of_wrap h

end Binder

end Embedder
