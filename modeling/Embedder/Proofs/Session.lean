import Embedder.Proofs.Binder.Events
import Embedder.Proofs.ImportTable.Answers
import Embedder.Session

/-!
A session counts what it tells. Every function that is bound is told once and pushed once, and a
push either adds it to the functions of the table or is refused; so the functions that were told of
are those of the table and those that were refused. Nothing else in a session tells of a function,
and nothing else adds one.
-/

namespace Embedder

/-- The event tells that a function was bound or wrapped. -/
def Event.TellsImport (e : Event) : Prop :=
  e.level = .debug ∧ (e.message = "host method bound" ∨ e.message = "host function wrapped")

instance : DecidablePred Event.TellsImport := fun e =>
  inferInstanceAs (Decidable (e.level = .debug ∧ _))

/-- How many functions the events tell of. -/
def importsTold (log : List Event) : Nat := log.countP fun e => e.TellsImport

/-- What came of an attempt, if anything did. -/
def Attempt.made (a : Attempt α) : List α := a.answer.toOption.toList

/-! ### One offer -/

theorem importsTold_append (log log' : List Event) :
    importsTold (log ++ log') = importsTold log + importsTold log' := List.countP_append

theorem importsTold_crossings (index : Nat) (ts : List ValueType) :
    importsTold (ValueType.crossings index ts) = 0 := by
  induction ts generalizing index with
  | nil => rfl
  | cons t ts ih =>
    exact (List.countP_cons_of_neg (by simp [Event.TellsImport, Event.level])).trans (ih _)

namespace Binder

variable (b : Binder) (name : ImportName)

theorem importsTold_bind (m : Method) :
    importsTold (b.bind name m).events = (b.bind name m).made.length := by
  obtain ⟨ts, events⟩ := b.exists_events_bind name m
  rw [events, importsTold_append, importsTold_crossings, Attempt.made]
  cases (b.bind name m).answer <;> rfl

theorem importsTold_wrap (key : Nat) (g : TypedFunction) :
    importsTold (b.wrap name key g).events = (b.wrap name key g).made.length := by
  rw [events_wrap, Attempt.made]
  cases (b.wrap name key g).answer <;> rfl

theorem importsTold_bindResolved (resolve : ρ → Except ResolutionError Method) (handle : ρ) :
    importsTold (b.bindResolved name resolve handle).events =
      (b.bindResolved name resolve handle).made.length := by
  cases named : name.check with
  | error e =>
    rw [bindResolved_of_check_error named]
    rfl
  | ok _ =>
    cases found : resolve handle with
    | error e =>
      rw [bindResolved_of_unresolved named found]
      rfl
    | ok m =>
      rw [bindResolved_of_resolved named found]
      exact b.importsTold_bind name m

end Binder

/-- The number of functions among the imports. -/
def countFunctions (is : List Import) : Nat := is.countP fun i => i.kind = .function

theorem importsTold_function {a : Attempt FunctionImport}
    (h : importsTold a.events = a.made.length) :
    let made : Attempt Import := do return .function (← a)
    importsTold made.events = countFunctions made.made := by
  intro made
  have answer : made.answer = a.answer >>= fun f => .ok (.function f) := Attempt.answer_bind a _
  rw [Attempt.events_bind_pure, h, Attempt.made, Attempt.made, answer]
  cases a.answer <;> rfl

/-- An offer tells of a function just when it brings one about. -/
theorem Offer.importsTold_attempt (o : Offer) :
    importsTold o.attempt.events = countFunctions o.attempt.made := by
  cases o with
  | method b name m => exact importsTold_function (b.importsTold_bind name m)
  | resolved b name resolve handle =>
    exact importsTold_function (b.importsTold_bindResolved name resolve handle)
  | function b name key g => exact importsTold_function (b.importsTold_wrap name key g)
  | resource name r => cases r <;> rfl

/-! ### One push -/

namespace Session

open ImportTable (empty)

variable {s : Session}

theorem push_eq (s : Session) (i : Import) : s.push i = { s with
    table := s.table.pushed i
    pushes := s.pushes ++ [(i, s.table.answer i)] } := rfl

/-- How many functions among the pushes were refused. -/
def functionsRefused (pushes : List (Import × Except AssembleError Nat)) : Nat :=
  pushes.countP fun (i, answer) => i.kind = .function && !answer.isOk

theorem functionsRefused_append (ps qs : List (Import × Except AssembleError Nat)) :
    functionsRefused (ps ++ qs) = functionsRefused ps + functionsRefused qs := List.countP_append

/-- A function that is pushed is one more in the table, or one more that is refused. -/
theorem functionCount_pushed (t : ImportTable) (i : Import) :
    (t.pushed i).functionCount + functionsRefused [(i, t.answer i)] =
      t.functionCount + countFunctions [i] := by
  unfold ImportTable.pushed ImportTable.answer
  obtain ⟨e, h⟩ | ⟨f, rfl, -, h⟩ | ⟨-, ⟨f, k, rfl, -, -, h⟩ | ⟨name, r, rfl, -, h⟩⟩ :=
    t.push_cases i <;> rw [h]
  · simp [functionsRefused, countFunctions, Except.isOk, Except.toBool]
  · rw [ImportTable.functionCount_intern]
    rfl
  · rfl
  · cases r <;> rfl

/-! ### Sessions -/

/-- What the parts of a session say of each other. -/
structure Accounted (s : Session) : Prop where
  /-- Each function that was told of is in the table or was refused. -/
  told : importsTold s.log = s.table.functionCount + functionsRefused s.pushes
  /-- The table is that after the pushes, and the answers are theirs. -/
  pushes : empty.pushAll (s.pushes.map Prod.fst) = (s.pushes.map Prod.snd, s.table)

theorem accounted_empty : Accounted {} := ⟨rfl, rfl⟩

theorem Accounted.tell (h : s.Accounted) {events : List Event} (none : importsTold events = 0) :
    Accounted { s with log := s.log ++ events } := by
  refine ⟨?_, h.pushes⟩
  rw [importsTold_append, none]
  exact h.told

theorem Accounted.tell_push (h : s.Accounted) {events : List Event} {i : Import}
    (told : importsTold events = countFunctions [i]) :
    Accounted (push { s with log := s.log ++ events } i) := by
  rw [push_eq]
  constructor
  · have pushed := functionCount_pushed s.table i
    have before := h.told
    simp only [importsTold_append, functionsRefused_append, told]
    omega
  · simp only [List.map_append, List.map_singleton]
    rw [ImportTable.pushAll_concat, h.pushes]

theorem Accounted.after (h : s.Accounted) (o : Offer) : (s.after o.attempt).Accounted := by
  have told := o.importsTold_attempt
  unfold Session.after
  unfold Attempt.made at told
  cases answer : o.attempt.answer with
  | error e =>
    rw [answer] at told
    exact h.tell told
  | ok i =>
    rw [answer] at told
    exact h.tell_push told

/-- A run keeps what an offer keeps. -/
theorem accounted_run (os : List Offer) : (run os).Accounted := by
  unfold run
  induction os using List.reverseRecOn with
  | nil => exact accounted_empty
  | append_singleton os o ih =>
    rw [List.foldl_append]
    exact ih.after o

/-- As long as indices are left, a push is refused only for a name that is taken. -/
theorem Accounted.duplicate_of_refused (h : s.Accounted)
    (few : s.pushes.length < ImportTable.indexLimit) {i : Import} {e : AssembleError}
    (refused : (i, .error e) ∈ s.pushes) : e = .duplicateImport i.name := by
  have short : (s.pushes.map Prod.fst).length < ImportTable.indexLimit := by rwa [List.length_map]
  have answers := ImportTable.answers_run short
  rw [h.pushes] at answers
  obtain ⟨n, hn⟩ := List.getElem?_of_mem refused
  have told := congrArg (·[n]?) answers
  simp only [List.getElem?_mapIdx, List.getElem?_map, hn, Option.map_some,
    Option.some.injEq] at told
  unfold ImportTable.answerAfter at told
  split at told
  · cases told
    rfl
  · cases told

end Session

/-- Binding a method tells nothing if the names, the body, how it can be reached or its result is at
fault. Otherwise it tells of each parameter before the first that cannot cross, in their order and
each as the same type on both sides, and then of the import just when there is one; so all
parameters are told where there are too many of them. Binding a typed function tells of the import
just when there is one. A handle that names no method is told of under good names, and one that does
tells what its method does. In a session of offers the functions told of are those of the table and
those that were refused, and up to `2 ^ 32 - 1` pushes nothing is refused but for a name that is
taken. -/
theorem records_tell_what_happened :
    (∀ (b : Binder) (name : ImportName) (m : Method),
      let a := b.bind name m
      (¬ m.ReachesParams name → a.records = []) ∧
      (m.ReachesParams name → ∃ ts rest, HostType.CrossAs m.params ts rest ∧
        a.records = ts.mapIdx Record.param ++ Record.ofAnswer "host method bound" a.answer ∧
        ∀ s count max, a.answer = .error (.tooManyParams s count max) → rest = [])) ∧
    (∀ (b : Binder) (name : ImportName) (key : Nat) (g : TypedFunction),
      let a := b.wrap name key g
      a.records = Record.ofAnswer "host function wrapped" a.answer) ∧
    (∀ (b : Binder) (name : ImportName) {ρ : Type}
      (resolve : ρ → Except ResolutionError Method) (handle : ρ),
      let a := b.bindResolved name resolve handle
      (name.moduleName = "" ∨ name.exportName = "" → a.records = []) ∧
      (name.moduleName ≠ "" → name.exportName ≠ "" →
        (∀ e, resolve handle = .error e →
          a.records = [⟨.debug, "host method resolution failed", [("error", e.message)]⟩]) ∧
        ∀ m, resolve handle = .ok m → a.records = (b.bind name m).records)) ∧
    ∀ offers : List Offer,
      let s := Session.run offers
      importsTold s.log = s.table.functionCount + Session.functionsRefused s.pushes ∧
      (s.pushes.length < 2 ^ 32 →
        ∀ i e, (i, .error e) ∈ s.pushes → e = .duplicateImport i.name) := by
  refine ⟨fun b name m => ⟨b.records_bind_of_not_reachesParams, b.exists_records_bind⟩,
    fun b name key g => b.records_wrap name key g,
    fun b name ρ resolve handle => ⟨Binder.records_bindResolved_of_missing, fun hm he => ?_⟩,
    fun offers => ?_⟩
  · have named := ImportName.check_eq_ok_iff.2 ⟨hm, he⟩
    constructor
    · intro e unresolved
      exact congrArg Attempt.records (Binder.bindResolved_of_unresolved named unresolved)
    · intro m resolved
      exact congrArg Attempt.records (Binder.bindResolved_of_resolved named resolved)
  · have accounted := Session.accounted_run offers
    exact ⟨accounted.told, fun few i e => accounted.duplicate_of_refused few⟩

/-- A method under the name of a wrapped function is told of and refused; a handle that names
nothing is told of otherwise. -/
theorem records_tell_what_happened_refused :
    let g : TypedFunction := ⟨[.i32], none, fun _ => .ok ()⟩
    let m : Method :=
      { name := "put", params := [.num .i64], body := some ⟨1, .reflective fun _ => .ok none⟩ }
    let name : ImportName := ⟨"env", "log"⟩
    let nothing (handle : String) : Except ResolutionError Method :=
      .error ⟨handle, "no such method"⟩
    let s := Session.run [.function {} name 0 g, .method {} name m, .resolved {} name nothing "log"]
    s.table.functionCount = 1 ∧ s.pushes.length < 2 ^ 32 ∧ importsTold s.log = 2 ∧
      (({} : Binder).bindResolved name nothing "log").records =
        [⟨.debug, "host method resolution failed",
          [("error", "Unable to resolve 'log': no such method")]⟩] := by
  intro g m name nothing s
  obtain ⟨-, -, resolved, sessions⟩ := records_tell_what_happened
  obtain ⟨count, -⟩ :=
    sessions [.function {} name 0 g, .method {} name m, .resolved {} name nothing "log"]
  have functions : s.table.functionCount = 1 := by
    simp only [s, g, m, name, nothing]
    cbv
  have refused : Session.functionsRefused s.pushes = 1 := by
    simp only [s, g, m, name, nothing]
    cbv
  have short : s.pushes.length < 2 ^ 32 := by
    simp only [s, g, m, name, nothing]
    cbv
  obtain ⟨-, named⟩ := resolved {} name nothing "log"
  obtain ⟨unresolved, -⟩ := named (by decide) (by decide)
  exact ⟨functions, short, by rw [count, functions, refused], unresolved _ rfl⟩

end Embedder
