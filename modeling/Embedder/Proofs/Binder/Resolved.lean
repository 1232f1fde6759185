import Embedder.Proofs.Binder.Events
import Mathlib.Data.List.Basic

/-!
Requests to bind what handles name. Many can be wrong at once, in the names, in the handle and in
the method behind it, and which of these is the answer does not depend on what was asked before.
What is bound is the body of the method itself, so imports share a callable when their handles name
one method.
-/

namespace Embedder

/-- A request to bind the method that a handle names. -/
structure Request (ρ : Type) where
  handle : ρ
  name : ImportName
  deriving DecidableEq, Repr

/-- What was told over some requests, and the answer to each. -/
structure Served where
  log : List Event := []
  answers : List (Except BindError FunctionImport) := []

/-- Different handles never lead to the same body. -/
def DistinctBodies (resolve : ρ → Except ResolutionError Method) : Prop :=
  ∀ handle handle' m m' c c', resolve handle = .ok m → resolve handle' = .ok m' →
    m.body = some c → m'.body = some c' → c.key = c'.key → handle = handle'

/-- What a request is to be answered with: a missing name comes before the handle, and the handle
before all that can be wrong with a method. -/
inductive AnswersTo (b : Binder) (resolve : ρ → Except ResolutionError Method) (r : Request ρ) :
    Except BindError FunctionImport → Prop
  | moduleName : r.name.moduleName = "" → AnswersTo b resolve r (.error (.missing .moduleName))
  | exportName : r.name.moduleName ≠ "" → r.name.exportName = "" →
    AnswersTo b resolve r (.error (.missing .exportName))
  | unresolved {e : ResolutionError} : r.name.moduleName ≠ "" → r.name.exportName ≠ "" →
    resolve r.handle = .error e → AnswersTo b resolve r (.error (.missing (.callable e)))
  | resolved {m : Method} : r.name.moduleName ≠ "" → r.name.exportName ≠ "" →
    resolve r.handle = .ok m → AnswersTo b resolve r (b.bind r.name m).answer

/-- No two answers are right for one request. -/
theorem AnswersTo.unique {b : Binder} {resolve : ρ → Except ResolutionError Method} {r : Request ρ}
    {x y : Except BindError FunctionImport} (h : AnswersTo b resolve r x)
    (h' : AnswersTo b resolve r y) : x = y := by
  cases h <;> cases h' <;> simp_all

namespace Binder

variable (b : Binder) (resolve : ρ → Except ResolutionError Method)

def serve (s : Served) (r : Request ρ) : Served :=
  let a := b.bindResolved r.name resolve r.handle
  ⟨s.log ++ a.events, s.answers ++ [a.answer]⟩

/-- Answers requests in turn. -/
def serveAll (rs : List (Request ρ)) : Served := rs.foldl (b.serve resolve) {}

def answer (r : Request ρ) : Except BindError FunctionImport :=
  (b.bindResolved r.name resolve r.handle).answer

/-! ### One request -/

variable {b resolve} {r r' : Request ρ} {f f' : FunctionImport}

theorem answersTo_answer : AnswersTo b resolve r (b.answer resolve r) := by
  rw [answer]
  by_cases moduleName : r.name.moduleName = ""
  · have check : r.name.check = .error (.missing .moduleName) := if_pos moduleName
    rw [bindResolved_of_check_error check]
    exact .moduleName moduleName
  by_cases exportName : r.name.exportName = ""
  · have check : r.name.check = .error (.missing .exportName) :=
      (if_neg moduleName).trans (if_pos exportName)
    rw [bindResolved_of_check_error check]
    exact .exportName moduleName exportName
  have check : r.name.check = .ok () := ImportName.check_eq_ok_iff.2 ⟨moduleName, exportName⟩
  cases found : resolve r.handle with
  | error e =>
    rw [bindResolved_of_unresolved check found]
    exact .unresolved moduleName exportName found
  | ok m =>
    rw [bindResolved_of_resolved check found]
    exact .resolved moduleName exportName found

theorem answersTo_iff {x : Except BindError FunctionImport} :
    AnswersTo b resolve r x ↔ x = b.answer resolve r := by
  constructor
  · exact fun h => h.unique answersTo_answer
  · rintro rfl
    exact answersTo_answer

/-- What is bound is the body of the method that the handle names. -/
theorem exists_body_of_answer_eq_ok (h : b.answer resolve r = .ok f) :
    ∃ m, resolve r.handle = .ok m ∧ m.body = some f.callable := by
  have answers : AnswersTo b resolve r (.ok f) := answersTo_iff.2 h.symm
  generalize hx : Except.ok f = x at answers
  cases answers with
  | moduleName | exportName | unresolved => cases hx
  | @resolved m _ _ found =>
    obtain ⟨-, body, -⟩ := answer_bind_eq_ok_iff.1 hx.symm
    exact ⟨m, found, body⟩

theorem callable_eq_of_handle_eq (h : b.answer resolve r = .ok f)
    (h' : b.answer resolve r' = .ok f')
    (same : r.handle = r'.handle) : f.callable = f'.callable := by
  obtain ⟨m, found, body⟩ := exists_body_of_answer_eq_ok h
  obtain ⟨m', found', body'⟩ := exists_body_of_answer_eq_ok h'
  rw [same, found', Except.ok.injEq] at found
  rw [← found, body', Option.some.injEq] at body
  exact body.symm

theorem key_eq_iff_handle_eq (distinct : DistinctBodies resolve) (h : b.answer resolve r = .ok f)
    (h' : b.answer resolve r' = .ok f') :
    f.callable.key = f'.callable.key ↔ r.handle = r'.handle := by
  constructor
  · intro same
    obtain ⟨m, found, body⟩ := exists_body_of_answer_eq_ok h
    obtain ⟨m', found', body'⟩ := exists_body_of_answer_eq_ok h'
    exact distinct _ _ _ _ _ _ found found' body body' same
  · exact fun same => congrArg Callable.key (callable_eq_of_handle_eq h h' same)

/-! ### Requests in turn -/

/-- Each request adds its own events and its own answer to what was there. -/
theorem foldl_serve (s : Served) (rs : List (Request ρ)) : rs.foldl (b.serve resolve) s =
    ⟨s.log ++ rs.flatMap fun r => (b.bindResolved r.name resolve r.handle).events,
      s.answers ++ rs.map (b.answer resolve)⟩ := by
  induction rs generalizing s with
  | nil => simp
  | cons r rs ih =>
    rw [List.foldl_cons, ih]
    simp [serve, answer]

variable (b resolve) in
theorem answers_serveAll (rs : List (Request ρ)) :
    (b.serveAll resolve rs).answers = rs.map (b.answer resolve) := by
  rw [serveAll, foldl_serve]
  exact List.nil_append _

variable (b resolve) in
theorem getElem?_answers_serveAll (rs : List (Request ρ)) (n : Nat) :
    (b.serveAll resolve rs).answers[n]? = rs[n]?.map (b.answer resolve) := by
  rw [answers_serveAll, List.getElem?_map]

theorem answer_eq_of_getElem? {rs : List (Request ρ)} {n : Nat}
    {x : Except BindError FunctionImport}
    (request : rs[n]? = some r) (h : (b.serveAll resolve rs).answers[n]? = some x) :
    b.answer resolve r = x := by
  rw [getElem?_answers_serveAll, request] at h
  exact Option.some.inj h

end Binder

/-- Every request is answered by what is right for it and nothing else: a missing name, the module
name first, then the error of a handle that names nothing, then what binding the method answers. The
same request has the same answer among any others and in any order. Imports made of one handle share
a callable, and where every handle has a body of its own no others do. -/
theorem requests_answered_alone (b : Binder) (resolve : ρ → Except ResolutionError Method)
    (rs : List (Request ρ)) :
    List.Forall₂ (fun r x => ∀ y, AnswersTo b resolve r y ↔ y = x) rs
      (b.serveAll resolve rs).answers ∧
    (∀ (rs' : List (Request ρ)) (n n' : Nat), rs[n]? = rs'[n']? →
      (b.serveAll resolve rs).answers[n]? = (b.serveAll resolve rs').answers[n']?) ∧
    (∀ rs', rs.Perm rs' →
      (rs.zip (b.serveAll resolve rs).answers).Perm (rs'.zip (b.serveAll resolve rs').answers)) ∧
    ∀ (n n' : Nat) (r r' : Request ρ) (f f' : FunctionImport), rs[n]? = some r → rs[n']? = some r' →
      (b.serveAll resolve rs).answers[n]? = some (.ok f) →
      (b.serveAll resolve rs).answers[n']? = some (.ok f') →
      (r.handle = r'.handle → f.callable = f'.callable) ∧
      (DistinctBodies resolve → (f.callable.key = f'.callable.key ↔ r.handle = r'.handle)) := by
  refine ⟨?_, ?_, ?_, ?_⟩
  · rw [b.answers_serveAll, List.forall₂_map_right_iff, List.forall₂_same]
    exact fun r _ y => Binder.answersTo_iff
  · intro rs' n n' same
    rw [b.getElem?_answers_serveAll, b.getElem?_answers_serveAll, same]
  · intro rs' perm
    rw [b.answers_serveAll, b.answers_serveAll, ← List.map_prod_left_eq_zip,
      ← List.map_prod_left_eq_zip]
    exact perm.map _
  · intro n n' r r' f f' request request' bound bound'
    have h := Binder.answer_eq_of_getElem? request bound
    have h' := Binder.answer_eq_of_getElem? request' bound'
    exact ⟨Binder.callable_eq_of_handle_eq h h',
      fun distinct => Binder.key_eq_iff_handle_eq distinct h h'⟩

/-- Two handles with a body each, one of them bound twice, and a handle of nothing under no name. -/
theorem requests_answered_alone_twice :
    let resolve : String → Except ResolutionError Method := fun handle =>
      if handle = "log" then .ok { name := "log", body := some ⟨0, .reflective fun _ => .ok none⟩ }
      else if handle = "tick" then
        .ok { name := "tick", body := some ⟨1, .reflective fun _ => .ok none⟩ }
      else .error ⟨handle, "no such method"⟩
    let rs : List (Request String) := [⟨"log", ⟨"env", "log"⟩⟩, ⟨"tick", ⟨"env", "tick"⟩⟩,
      ⟨"nothing", ⟨"", "nothing"⟩⟩, ⟨"log", ⟨"env", "print"⟩⟩]
    ∃ f g h : FunctionImport, (({} : Binder).serveAll resolve rs).answers =
        [.ok f, .ok g, .error (.missing .moduleName), .ok h] ∧
      DistinctBodies resolve ∧ f.callable.key ≠ g.callable.key ∧ f.callable = h.callable := by
  intro resolve rs
  have distinct : DistinctBodies resolve := by
    intro handle handle' m m' c c' found found' body body' key
    simp only [resolve] at found found'
    grind
  obtain ⟨-, -, -, bound⟩ := requests_answered_alone {} resolve rs
  refine ⟨_, _, _, rfl, distinct, ?_, ?_⟩
  · obtain ⟨-, key⟩ := bound 0 1 _ _ _ _ rfl rfl rfl rfl
    rw [ne_eq, key distinct]
    decide
  · obtain ⟨callable, -⟩ := bound 0 3 _ _ _ _ rfl rfl rfl rfl
    exact callable rfl

end Embedder
