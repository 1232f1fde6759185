import Embedder.Proofs.Binder.Faults

/-!
What binding tells. The events of an attempt are those of its parts up to the first that fails, so
they tell how far it came: nothing until the parameters are reached, one event for each parameter
before the first that cannot cross, and the import itself only once it is there.
-/

namespace Embedder

/-! ### Records -/

/-- An event as a listener gets it. -/
structure Record where
  level : Level
  message : String
  fields : List (String × String)
  deriving DecidableEq, Repr

def Event.record (e : Event) : Record := ⟨e.level, e.message, e.fields⟩

def Attempt.records (a : Attempt α) : List Record := a.events.map Event.record

/-- The record of a parameter that crosses as the type it has on the other side. -/
def Record.param (i : Nat) (t : ValueType) : Record :=
  ⟨.trace, "parameter translated", [("index", toString i), ("host", t.name), ("wasm", t.name)]⟩

/-- The one record of an import that came about, by its names and its signature, and none of a
failure. -/
def Record.ofAnswer (message : String) : Except BindError FunctionImport → List Record
  | .ok f => [⟨.debug, message, [("module", f.name.moduleName), ("export", f.name.exportName),
      ("signature", f.signature.text)]⟩]
  | .error _ => []

/-! ### Attempts -/

namespace Attempt

variable {a : Attempt α} {next : α → Attempt β}

/-- A check that passes leaves no trace. -/
theorem check_ok_bind (x : α) (next : α → Attempt β) : check (.ok x) >>= next = next x := rfl

/-- What comes after tells its events after those told before, if it comes at all. -/
theorem bind_of_ok {x : α} (h : a.answer = .ok x) :
    a >>= next = ⟨a.events ++ (next x).events, (next x).answer⟩ := by
  obtain ⟨events, answer⟩ := a
  cases h
  rfl

theorem bind_of_error {e : BindError} (h : a.answer = .error e) :
    a >>= next = ⟨a.events, .error e⟩ := by
  obtain ⟨events, answer⟩ := a
  cases h
  rfl

/-- What is made of the answer is not told. -/
theorem events_bind_pure (a : Attempt α) (f : α → β) :
    (a >>= fun x => pure (f x)).events = a.events := by
  cases h : a.answer with
  | error e => rw [bind_of_error h]
  | ok x =>
    rw [bind_of_ok h]
    exact List.append_nil a.events

end Attempt

/-! ### Parameters -/

/-- The events of parameters that cross as these types, in their order. -/
def ValueType.crossings (index : Nat) : List ValueType → List Event
  | [] => []
  | t :: ts => .parameterTranslated index (.num t) t :: crossings (index + 1) ts

theorem ValueType.map_record_crossings (index : Nat) (ts : List ValueType) :
    (crossings index ts).map Event.record = ts.mapIdx fun i t => Record.param (index + i) t := by
  induction ts generalizing index with
  | nil => rfl
  | cons t ts ih =>
    rw [crossings, List.map_cons, ih, List.mapIdx_cons]
    simp only [Nat.add_right_comm index 1, Nat.add_assoc index]
    rfl

/-- The types are those that the parameters cross as, up to the first that cannot. -/
def HostType.CrossAs (params : List HostType) (ts : List ValueType) (rest : List HostType) : Prop :=
  params = ts.map .num ++ rest ∧ ∀ h ∈ rest.head?, ¬ h.IsNumeric

namespace HostType

/-- Translating parameters tells just those that come before the first that cannot cross. -/
theorem exists_events_translateParams (index : Nat) (params : List HostType) :
    ∃ ts rest, CrossAs params ts rest ∧
      (translateParams index params).events = ValueType.crossings index ts := by
  induction params generalizing index with
  | nil => exact ⟨[], [], ⟨rfl, nofun⟩, rfl⟩
  | cons h params ih =>
    rw [translateParams]
    cases translated : h.translate (.param index) with
    | error e =>
      refine ⟨[], h :: params, ⟨rfl, ?_⟩, rfl⟩
      rintro _ ⟨⟩ ⟨t, rfl⟩
      cases translated
    | ok t =>
      obtain rfl := translate_eq_ok_iff.1 translated
      obtain ⟨ts, rest, ⟨split, stop⟩, events⟩ := ih (index + 1)
      refine ⟨t :: ts, rest, ⟨by rw [split]; rfl, stop⟩, ?_⟩
      rw [ValueType.crossings, ← events]
      exact congrArg (_ :: ·) (Attempt.events_bind_pure _ (t :: ·))

theorem exists_translateResult_eq_ok_iff {declared : Option HostType} :
    (∃ result, HostType.translateResult declared = .ok result) ↔
      ∀ h, declared = some h → h = .unit ∨ h.IsNumeric := by
  rw [(HostType.looksFor_translateResult declared).exists_ok_iff]
  constructor
  · intro none h hr
    by_contra other
    obtain ⟨unit, numeric⟩ := not_or.1 other
    exact none _ ⟨h, hr, unit, numeric, rfl⟩
  · rintro all e ⟨h, hr, unit, numeric, -⟩
    exact (all h hr).elim unit numeric

end HostType

/-! ### Described methods -/

namespace Method

/-- The checks that come before the parameters. -/
def checkReach (m : Method) (name : ImportName) :
    Except BindError (Callable × Option ValueType) := do
  name.check
  let body ← m.checkBody
  m.checkEligible
  let result ← HostType.translateResult m.result
  return (body, result)

variable {m : Method} {name : ImportName}

theorem exists_checkReach_eq_ok_iff : (∃ x, m.checkReach name = .ok x) ↔ m.ReachesParams name := by
  simp only [checkReach, bind_eq_ok_iff]
  constructor
  · rintro ⟨_, ⟨⟩, named, c, body, ⟨⟩, eligible, result, translated, -⟩
    obtain ⟨hm, he⟩ := ImportName.check_eq_ok_iff.1 named
    obtain ⟨visibility, receiver, definition⟩ := checkEligible_eq_ok_iff.1 eligible
    exact ⟨hm, he, by rw [checkBody_eq_ok_iff.1 body]; rfl, visibility, receiver, definition,
      HostType.exists_translateResult_eq_ok_iff.1 ⟨result, translated⟩⟩
  · intro h
    obtain ⟨c, body⟩ := Option.isSome_iff_exists.1 h.body
    obtain ⟨result, translated⟩ := HostType.exists_translateResult_eq_ok_iff.2 h.result
    have named := ImportName.check_eq_ok_iff.2 ⟨h.moduleName, h.exportName⟩
    have eligible := checkEligible_eq_ok_iff.2 ⟨h.visibility, h.receiver, h.definition⟩
    exact ⟨_, (), named, c, checkBody_eq_ok_iff.2 body, (), eligible, result, translated, rfl⟩

end Method

namespace Binder

/-- The events of an import that came about, and none of a failure. -/
def importEvents (event : ImportName → Signature → Event) :
    Except BindError FunctionImport → List Event
  | .ok f => [event f.name f.signature]
  | .error _ => []

theorem map_record_importEvents {event : ImportName → Signature → Event} {message : String}
    (h : ∀ name s, (event name s).record = ⟨.debug, message, Event.importFields name s⟩)
    (answer : Except BindError FunctionImport) :
    (importEvents event answer).map Event.record = Record.ofAnswer message answer := by
  cases answer with
  | error e => rfl
  | ok f => exact congrArg (fun r => [r]) (h f.name f.signature)

/-- Binding a method is a chain of checks that tell nothing, then the parameters, then their
number. -/
theorem bind_eq (b : Binder) (name : ImportName) (m : Method) : b.bind name m = (do
    let (body, result) ← Attempt.check (m.checkReach name)
    let params ← HostType.translateParams 0 m.params
    Attempt.check (b.checkArity m.name params.length)
    Attempt.tell (.methodBound name ⟨params, result⟩)
    return ⟨name, ⟨params, result⟩, body⟩) := by
  unfold bind Method.checkReach
  cases name.check with
  | error e => rfl
  | ok _ =>
    cases m.checkBody with
    | error e => rfl
    | ok body =>
      cases m.checkEligible with
      | error e => rfl
      | ok _ => cases HostType.translateResult m.result <;> rfl

theorem bind_of_not_reachesParams (b : Binder) {name : ImportName} {m : Method}
    (h : ¬ m.ReachesParams name) : ∃ e, b.bind name m = ⟨[], .error e⟩ := by
  rw [bind_eq]
  cases reach : m.checkReach name with
  | error e => exact ⟨e, rfl⟩
  | ok x => exact absurd (Method.exists_checkReach_eq_ok_iff.1 ⟨x, reach⟩) h

/-- A method that reaches its parameters tells those before the first that cannot cross, and then
the import if it comes about. -/
theorem events_bind_of_reachesParams (b : Binder) {name : ImportName} {m : Method}
    (h : m.ReachesParams name) :
    ∃ ts rest, HostType.CrossAs m.params ts rest ∧ (b.bind name m).events =
      ValueType.crossings 0 ts ++ importEvents .methodBound (b.bind name m).answer := by
  obtain ⟨ts, rest, crosses, events⟩ := HostType.exists_events_translateParams 0 m.params
  refine ⟨ts, rest, crosses, ?_⟩
  obtain ⟨⟨body, result⟩, reach⟩ := Method.exists_checkReach_eq_ok_iff.2 h
  rw [bind_eq, reach, ← events, Attempt.check_ok_bind]
  dsimp only
  cases translated : (HostType.translateParams 0 m.params).answer with
  | error e =>
    rw [Attempt.bind_of_error translated]
    exact (List.append_nil _).symm
  | ok params =>
    rw [Attempt.bind_of_ok translated]
    cases b.checkArity m.name params.length <;> rfl

theorem records_bind_of_not_reachesParams (b : Binder) {name : ImportName} {m : Method}
    (h : ¬ m.ReachesParams name) : (b.bind name m).records = [] := by
  obtain ⟨e, failed⟩ := b.bind_of_not_reachesParams h
  rw [Attempt.records, failed]
  rfl

theorem exists_events_bind (b : Binder) (name : ImportName) (m : Method) :
    ∃ ts, (b.bind name m).events =
      ValueType.crossings 0 ts ++ importEvents .methodBound (b.bind name m).answer := by
  by_cases reaches : m.ReachesParams name
  · obtain ⟨ts, -, -, events⟩ := b.events_bind_of_reachesParams reaches
    exact ⟨ts, events⟩
  · obtain ⟨e, failed⟩ := b.bind_of_not_reachesParams reaches
    exact ⟨[], by rw [failed]; rfl⟩

/-- Where the number of parameters is the fault, all of them were told. -/
theorem rest_eq_nil_of_tooManyParams {b : Binder} {name : ImportName} {m : Method} {s : String}
    {count max : Nat} {ts : List ValueType} {rest : List HostType}
    (failed : (b.bind name m).answer = .error (.tooManyParams s count max))
    (crosses : HostType.CrossAs m.params ts rest) : rest = [] := by
  obtain ⟨split, stop⟩ := crosses
  obtain ⟨-, first⟩ := (b.looksFor_bind name m).eq_error_iff.1 failed
  cases rest with
  | nil => rfl
  | cons h rest =>
    have param : m.params[ts.length]? = some h := by simp [split]
    rcases first _ (.param param (stop h rfl)) with same | after
    · cases same
    · simp [BindError.Precedes, BindError.place] at after

/-- The records of a method that reaches its parameters. -/
theorem exists_records_bind (b : Binder) {name : ImportName} {m : Method}
    (h : m.ReachesParams name) :
    ∃ ts rest, HostType.CrossAs m.params ts rest ∧
      (b.bind name m).records =
        ts.mapIdx Record.param ++ Record.ofAnswer "host method bound" (b.bind name m).answer ∧
      ∀ s count max, (b.bind name m).answer = .error (.tooManyParams s count max) → rest = [] := by
  obtain ⟨ts, rest, crosses, events⟩ := b.events_bind_of_reachesParams h
  have params := ValueType.map_record_crossings 0 ts
  simp only [Nat.zero_add] at params
  refine ⟨ts, rest, crosses, ?_,
    fun s count max failed => rest_eq_nil_of_tooManyParams failed crosses⟩
  rw [Attempt.records, events, List.map_append, params, map_record_importEvents fun _ _ => rfl]

/-! ### Typed functions and handles -/

theorem events_wrap (b : Binder) (name : ImportName) (key : Nat) (g : TypedFunction) :
    (b.wrap name key g).events = importEvents .functionWrapped (b.wrap name key g).answer := by
  unfold wrap
  cases name.check with
  | error e => rfl
  | ok _ => cases b.checkArity name.exportName g.params.length <;> rfl

theorem records_wrap (b : Binder) (name : ImportName) (key : Nat) (g : TypedFunction) :
    (b.wrap name key g).records =
      Record.ofAnswer "host function wrapped" (b.wrap name key g).answer := by
  rw [Attempt.records, events_wrap, map_record_importEvents fun _ _ => rfl]

section Resolved

variable {b : Binder} {name : ImportName} {resolve : ρ → Except ResolutionError Method} {handle : ρ}

theorem bindResolved_of_check_error {e : BindError} (h : name.check = .error e) :
    b.bindResolved name resolve handle = ⟨[], .error e⟩ := by
  rw [bindResolved, h]
  rfl

theorem bindResolved_of_unresolved (h : name.check = .ok ()) {e : ResolutionError}
    (unresolved : resolve handle = .error e) : b.bindResolved name resolve handle =
      ⟨[.resolutionFailed e], .error (.missing (.callable e))⟩ := by
  rw [bindResolved, h, unresolved]
  rfl

theorem bindResolved_of_resolved (h : name.check = .ok ()) {m : Method}
    (resolved : resolve handle = .ok m) : b.bindResolved name resolve handle = b.bind name m := by
  rw [bindResolved, h, resolved]
  rfl

theorem records_bindResolved_of_missing (h : name.moduleName = "" ∨ name.exportName = "") :
    (b.bindResolved name resolve handle).records = [] := by
  cases named : name.check with
  | error e =>
    rw [bindResolved_of_check_error named]
    rfl
  | ok _ =>
    obtain ⟨hm, he⟩ := ImportName.check_eq_ok_iff.1 named
    exact absurd h (not_or.2 ⟨hm, he⟩)

end Resolved

end Binder

end Embedder
