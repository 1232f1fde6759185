import Embedder.Proofs.Binder

/-!
What can be wrong with a request to bind a method, and which of many faults is the answer. The
faults are told apart from the checks that find them, as is their order; a chain of checks answers
with the first fault because each check does for the faults that it looks for, and because they are
looked for in order.
-/

namespace Embedder

/-! ### Faults and their order -/

/-- One of the types that cross the boundary. -/
def HostType.IsNumeric (h : HostType) : Prop := ∃ t, h = .num t

/-- What can be wrong with a request, each fault as the error that it is answered with. -/
inductive Fault (b : Binder) (name : ImportName) (m : Method) : BindError → Prop
  | moduleName : name.moduleName = "" → Fault b name m (.missing .moduleName)
  | exportName : name.exportName = "" → Fault b name m (.missing .exportName)
  | body : m.body = none → Fault b name m (.missing .body)
  | notPublic : m.visibility ≠ .shown → Fault b name m (.ineligible m.name .notPublic)
  | instanceBound : m.receiver ≠ .static → Fault b name m (.ineligible m.name .instanceBound)
  | incomplete : m.definition ≠ .complete → Fault b name m (.ineligible m.name .incomplete)
  | result {h : HostType} : m.result = some h → h ≠ .unit → ¬ h.IsNumeric →
    Fault b name m (.unsupported h .result)
  | param {i : Nat} {h : HostType} : m.params[i]? = some h → ¬ h.IsNumeric →
    Fault b name m (.unsupported h (.param i))
  | arity : b.maxParams < m.params.length →
    Fault b name m (.tooManyParams m.name m.params.length b.maxParams)

/-- Where an error stands in the order of the checks: the check that gives it, and among those of
parameters the index. -/
def BindError.place : BindError → Nat × Nat
  | .missing .moduleName => (0, 0)
  | .missing .exportName => (1, 0)
  | .missing (.callable _) => (2, 0)
  | .missing .body => (3, 0)
  | .ineligible _ .notPublic => (4, 0)
  | .ineligible _ .instanceBound => (5, 0)
  | .ineligible _ .incomplete => (6, 0)
  | .unsupported _ .result => (7, 0)
  | .unsupported _ (.param i) => (8, i)
  | .tooManyParams .. => (9, 0)

/-- The error is found before the other. -/
def BindError.Precedes (e e' : BindError) : Prop :=
  e.place.1 < e'.place.1 ∨ e.place.1 = e'.place.1 ∧ e.place.2 < e'.place.2

theorem BindError.Precedes.asymm {e e' : BindError} (h : e.Precedes e') : ¬ e'.Precedes e := by
  unfold Precedes at *
  omega

/-- Of some faults the one that precedes all others. -/
def First (faults : BindError → Prop) (e : BindError) : Prop :=
  faults e ∧ ∀ e', faults e' → e' = e ∨ e.Precedes e'

theorem First.unique {faults : BindError → Prop} {e e' : BindError} (h : First faults e)
    (h' : First faults e') : e = e' := by
  rcases h.2 e' h'.1 with rfl | before
  · rfl
  rcases h'.2 e h.1 with rfl | after
  · rfl
  · exact absurd after before.asymm

/-! ### Checks and their faults -/

/-- The check passes where none of the faults is there, and fails with the first of those that
are. -/
def LooksFor (check : Except BindError α) (faults : BindError → Prop) : Prop :=
  match check with
  | .ok _ => ∀ e, ¬ faults e
  | .error e => First faults e

namespace LooksFor

variable {check : Except BindError α} {faults faults' : BindError → Prop}

theorem ok (x : α) : LooksFor (.ok x : Except BindError α) fun _ => False := fun _ => id

theorem congr (h : LooksFor check faults) (same : ∀ e, faults e ↔ faults' e) :
    LooksFor check faults' := by
  have : faults = faults' := funext fun e => propext (same e)
  rwa [← this]

/-- One condition, and where it is met what is checked after it. -/
theorem ite {p : Prop} [Decidable p] {e : BindError} (after : ∀ e', faults e' → e.Precedes e')
    (h : ¬ p → LooksFor check faults) :
    LooksFor (if p then .error e else check) fun e' => p ∧ e' = e ∨ faults e' := by
  split
  · rename_i hp
    refine ⟨.inl ⟨hp, rfl⟩, ?_⟩
    rintro e' (⟨-, rfl⟩ | he')
    · exact .inl rfl
    · exact .inr (after e' he')
  · rename_i hp
    exact (h hp).congr fun e' => by simp [hp]

/-- Checks in turn look for the faults of both, if those of the first come first. -/
theorem bind {next : α → Except BindError β} (h : LooksFor check faults)
    (after : ∀ e e', faults e → faults' e' → e.Precedes e')
    (h' : ∀ x, check = .ok x → LooksFor (next x) faults') :
    LooksFor (check >>= next) fun e => faults e ∨ faults' e := by
  cases check with
  | ok x => exact (h' x rfl).congr fun e => by simp [h e]
  | error e =>
    obtain ⟨he, first⟩ := h
    refine ⟨.inl he, ?_⟩
    rintro e' (he' | he')
    · exact first e' he'
    · exact .inr (after e e' he he')

/-- One condition, after which nothing is checked. -/
theorem ite_ok {p : Prop} [Decidable p] {e : BindError} {x : α} :
    LooksFor (if p then .error e else .ok x) fun e' => p ∧ e' = e :=
  (ite (fun _ => False.elim) fun _ => ok x).congr fun e' => by simp

/-- What is made of the answer does not matter. -/
theorem map (h : LooksFor check faults) (f : α → β) : LooksFor (check.map f) faults := by
  cases check <;> exact h

theorem eq_error_iff (h : LooksFor check faults) {e : BindError} :
    check = .error e ↔ First faults e := by
  cases check with
  | ok x => exact ⟨(nomatch ·), fun first => absurd first.1 (h e)⟩
  | error e' =>
    constructor
    · rintro ⟨⟩
      exact h
    · exact fun first => by rw [First.unique h first]

theorem exists_ok_iff (h : LooksFor check faults) : (∃ x, check = .ok x) ↔ ∀ e, ¬ faults e := by
  cases check with
  | ok x => exact ⟨fun _ => h, fun _ => ⟨x, rfl⟩⟩
  | error e => exact ⟨(nomatch ·), fun none => absurd h.1 (none e)⟩

end LooksFor

/-! ### The checks of a method -/

theorem ImportName.looksFor_check (name : ImportName) : LooksFor name.check fun e =>
    name.moduleName = "" ∧ e = .missing .moduleName ∨
    name.exportName = "" ∧ e = .missing .exportName :=
  .ite (by rintro _ ⟨-, rfl⟩; exact .inl (by decide)) fun _ => .ite_ok

theorem Method.looksFor_checkBody (m : Method) :
    LooksFor m.checkBody fun e => m.body = none ∧ e = .missing .body := by
  unfold checkBody
  cases m.body with
  | none => exact ⟨⟨rfl, rfl⟩, fun e he => .inl he.2⟩
  | some body => exact fun e he => nomatch he.1

theorem Method.looksFor_checkEligible (m : Method) : LooksFor m.checkEligible fun e =>
    m.visibility ≠ .shown ∧ e = .ineligible m.name .notPublic ∨
    m.receiver ≠ .static ∧ e = .ineligible m.name .instanceBound ∨
    m.definition ≠ .complete ∧ e = .ineligible m.name .incomplete := by
  have chain : m.checkEligible =
      if m.visibility ≠ .shown then .error (.ineligible m.name .notPublic)
      else if m.receiver ≠ .static then .error (.ineligible m.name .instanceBound)
      else if m.definition ≠ .complete then .error (.ineligible m.name .incomplete)
      else .ok () := by
    obtain ⟨_, visibility, receiver, definition, _, _, _⟩ := m
    cases visibility <;> cases receiver <;> cases definition <;> rfl
  rw [chain]
  refine .ite ?_ fun _ => .ite ?_ fun _ => .ite_ok
  · rintro e (⟨-, rfl⟩ | ⟨-, rfl⟩) <;> exact .inl (by simp [BindError.place])
  · rintro e ⟨-, rfl⟩
    exact .inl (by simp [BindError.place])

theorem HostType.looksFor_translate (h : HostType) (position : Position) :
    LooksFor (h.translate position) fun e => ¬ h.IsNumeric ∧ e = .unsupported h position := by
  unfold translate
  cases ht : h.valueType? with
  | some t => exact fun e he => he.1 ⟨t, valueType?_eq_some_iff.1 ht⟩
  | none =>
    refine ⟨⟨?_, rfl⟩, fun e he => .inl he.2⟩
    rintro ⟨t, rfl⟩
    cases ht

theorem HostType.looksFor_translateResult (result : Option HostType) :
    LooksFor (translateResult result) fun e =>
      ∃ h, result = some h ∧ h ≠ .unit ∧ ¬ h.IsNumeric ∧ e = .unsupported h .result := by
  unfold translateResult
  split
  · simp [LooksFor]
  · simp [LooksFor]
  · rename_i h _
    exact ((h.looksFor_translate .result).map some).congr fun e => by grind

theorem HostType.looksFor_translateParams (index : Nat) (params : List HostType) :
    LooksFor (translateParams index params).answer fun e =>
      ∃ i h, params[i]? = some h ∧ ¬ h.IsNumeric ∧ e = .unsupported h (.param (index + i)) := by
  induction params generalizing index with
  | nil => exact fun e ⟨i, h, hi, _⟩ => nomatch hi
  | cons h rest ih =>
    rw [answer_translateParams_cons]
    have rest := ih (index + 1)
    refine ((h.looksFor_translate (.param index)).bind ?_ fun t _ => rest.map (t :: ·)).congr ?_
    · rintro _ _ ⟨-, rfl⟩ ⟨i, h', -, -, rfl⟩
      refine .inr ⟨rfl, ?_⟩
      simp only [BindError.place]
      omega
    · intro e
      constructor
      · rintro (⟨hn, rfl⟩ | ⟨i, h', hi, hn, rfl⟩)
        · exact ⟨0, h, rfl, hn, rfl⟩
        · exact ⟨i + 1, h', hi, hn, by rw [Nat.add_right_comm, Nat.add_assoc]⟩
      · rintro ⟨_ | i, h', hi, hn, rfl⟩
        · cases hi
          exact .inl ⟨hn, rfl⟩
        · exact .inr ⟨i, h', hi, hn, by rw [Nat.add_right_comm, Nat.add_assoc]⟩

/-! ### Binding -/

namespace Binder

theorem looksFor_checkArity (b : Binder) (name : String) (count : Nat) :
    LooksFor (b.checkArity name count) fun e =>
      b.maxParams < count ∧ e = .tooManyParams name count b.maxParams := .ite_ok

theorem looksFor_signature (b : Binder) (m : Method) : LooksFor (b.signature m) fun e =>
    (∃ h, m.result = some h ∧ h ≠ .unit ∧ ¬ h.IsNumeric ∧ e = .unsupported h .result) ∨
    (∃ i h, m.params[i]? = some h ∧ ¬ h.IsNumeric ∧ e = .unsupported h (.param i)) ∨
    b.maxParams < m.params.length ∧ e = .tooManyParams m.name m.params.length b.maxParams := by
  have params := HostType.looksFor_translateParams 0 m.params
  simp only [Nat.zero_add] at params
  refine (HostType.looksFor_translateResult m.result).bind ?_ fun result _ =>
    params.bind ?_ fun ts translated => ?_
  · grind [BindError.Precedes, BindError.place]
  · grind [BindError.Precedes, BindError.place]
  · -- the types are counted, and they are as many as the parameters
    have length : m.params.length = ts.length := by
      rw [HostType.answer_translateParams_eq_ok_iff.1 translated, List.length_map]
    rw [length]
    exact (b.looksFor_checkArity m.name ts.length).map fun _ => (⟨ts, result⟩ : Signature)

theorem looksFor_bind (b : Binder) (name : ImportName) (m : Method) :
    LooksFor (b.bind name m).answer (Fault b name m) := by
  rw [answer_bind]
  refine LooksFor.congr (name.looksFor_check.bind ?_ fun _ _ =>
    m.looksFor_checkBody.bind ?_ fun body _ => m.looksFor_checkEligible.bind ?_ fun _ _ =>
    (b.looksFor_signature m).map fun s => (⟨name, s, body⟩ : FunctionImport)) fun e => ?_
  · grind [BindError.Precedes, BindError.place]
  · grind [BindError.Precedes, BindError.place]
  · grind [BindError.Precedes, BindError.place]
  · constructor
    · rintro ((⟨h, rfl⟩ | ⟨h, rfl⟩) | ⟨h, rfl⟩ | (⟨h, rfl⟩ | ⟨h, rfl⟩ | ⟨h, rfl⟩) |
        ⟨h, hr, hu, hn, rfl⟩ | ⟨i, h, hi, hn, rfl⟩ | ⟨h, rfl⟩)
      · exact .moduleName h
      · exact .exportName h
      · exact .body h
      · exact .notPublic h
      · exact .instanceBound h
      · exact .incomplete h
      · exact .result hr hu hn
      · exact .param hi hn
      · exact .arity h
    · intro fault
      cases fault with
      | param hi hn => exact .inr (.inr (.inr (.inr (.inl ⟨_, _, hi, hn, rfl⟩))))
      | _ => simp [*]

end Binder

/-! ### What a method is bound to -/

/-- The method gets as far as its parameters: the names, the body, how it can be reached and its
result are as they must be. -/
structure Method.ReachesParams (m : Method) (name : ImportName) : Prop where
  moduleName : name.moduleName ≠ ""
  exportName : name.exportName ≠ ""
  body : m.body.isSome
  visibility : m.visibility = .shown
  receiver : m.receiver = .static
  definition : m.definition = .complete
  result : ∀ h, m.result = some h → h = .unit ∨ h.IsNumeric

/-- The method can be bound: its parameters are as they must be, too, and no more than are
allowed. -/
structure Method.Bindable (m : Method) (b : Binder) (name : ImportName) : Prop
    extends m.ReachesParams name where
  params : ∀ h ∈ m.params, h.IsNumeric
  arity : m.params.length ≤ b.maxParams

theorem Method.bindable_iff {m : Method} {b : Binder} {name : ImportName} :
    m.Bindable b name ↔ ∀ e, ¬ Fault b name m e := by
  constructor
  · intro ok e fault
    cases fault with
    | moduleName h => exact ok.moduleName h
    | exportName h => exact ok.exportName h
    | body h => simpa [h] using ok.body
    | notPublic h => exact h ok.visibility
    | instanceBound h => exact h ok.receiver
    | incomplete h => exact h ok.definition
    | result hr hu hn => exact (ok.result _ hr).elim hu hn
    | param hi hn => exact hn (ok.params _ (List.mem_of_getElem? hi))
    | arity h => exact absurd ok.arity (Nat.not_le_of_lt h)
  · intro none
    refine ⟨⟨?_, ?_, ?_, ?_, ?_, ?_, ?_⟩, ?_, ?_⟩
    · exact fun h => none _ (.moduleName h)
    · exact fun h => none _ (.exportName h)
    · exact Option.isSome_iff_ne_none.2 fun h => none _ (.body h)
    · exact Decidable.by_contra fun h => none _ (.notPublic h)
    · exact Decidable.by_contra fun h => none _ (.instanceBound h)
    · exact Decidable.by_contra fun h => none _ (.incomplete h)
    · intro h hr
      refine (Decidable.em (h = .unit)).imp_right fun hu => ?_
      exact Classical.byContradiction fun hn => none _ (.result hr hu hn)
    · intro h hm
      obtain ⟨i, hi⟩ := List.getElem?_of_mem hm
      exact Classical.byContradiction fun hn => none _ (.param hi hn)
    · exact Nat.le_of_not_lt fun h => none _ (.arity h)

/-- No method declares two signatures. -/
theorem Method.Declares.unique {m : Method} {s s' : Signature}
    (h : m.Declares s) (h' : m.Declares s') : s = s' := by
  have params : s.params = s'.params := by
    rw [← List.map_inj_right fun _ _ => HostType.num.inj, ← h.params, ← h'.params]
  have result : s.result = s'.result := by
    rcases h.result with declared | ⟨nothing, unit⟩ <;>
      rcases h'.result with declared' | ⟨nothing', unit'⟩
    · rw [declared] at declared'
      exact Option.map_injective (fun _ _ => HostType.num.inj) declared'
    · simp [declared] at unit'
    · simp [declared'] at unit
    · rw [nothing, nothing']
  cases s
  cases s'
  simp_all

namespace Binder

variable {b : Binder} {name : ImportName} {m : Method} {f : FunctionImport}

theorem exists_bind_eq_ok_iff : (∃ f, (b.bind name m).answer = .ok f) ↔ m.Bindable b name :=
  (b.looksFor_bind name m).exists_ok_iff.trans Method.bindable_iff.symm

/-- A method that can be bound is bound to one import. -/
theorem bind_eq_ok_iff_bindable : (b.bind name m).answer = .ok f ↔ m.Bindable b name ∧
    f.name = name ∧ m.body = some f.callable ∧ ∀ s, m.Declares s ↔ s = f.signature := by
  constructor
  · intro h
    obtain ⟨-, body, -, ⟨declares, -⟩, named⟩ := answer_bind_eq_ok_iff.1 h
    refine ⟨exists_bind_eq_ok_iff.1 ⟨f, h⟩, named, body,
      fun s => ⟨fun hs => hs.unique declares, ?_⟩⟩
    rintro rfl
    exact declares
  · rintro ⟨bindable, named, body, signature⟩
    obtain ⟨f', h⟩ := exists_bind_eq_ok_iff.2 bindable
    obtain ⟨-, body', -, ⟨declares, -⟩, named'⟩ := answer_bind_eq_ok_iff.1 h
    have signature' := (signature _).1 declares
    rw [body, Option.some.injEq] at body'
    cases f
    cases f'
    simp_all

end Binder

/-- A request to bind a method succeeds just when the names are there, there is a body, the method
can be reached by all, stands alone and is complete, its result is numeric or nothing, its
parameters are numeric and they are no more than the binder allows. It is then bound under the names
given, to its own body and with the one signature that it declares. Every other request fails with
the first of its faults, in the order of the conditions just named, and of the parameters that
cannot cross with the leftmost. -/
theorem bind_fails_with_first_fault (b : Binder) (name : ImportName) (m : Method) :
    ((∃ f, (b.bind name m).answer = .ok f) ↔ m.Bindable b name) ∧
    (∀ f, (b.bind name m).answer = .ok f ↔ m.Bindable b name ∧
      f.name = name ∧ m.body = some f.callable ∧ ∀ s, m.Declares s ↔ s = f.signature) ∧
    ∀ e, (b.bind name m).answer = .error e ↔ First (Fault b name m) e :=
  ⟨Binder.exists_bind_eq_ok_iff, fun _ => Binder.bind_eq_ok_iff_bindable,
    fun _ => (b.looksFor_bind name m).eq_error_iff⟩

/-- Three parameters where two are allowed, two of which cannot cross: the first of these is the
answer, unless there is no body either. Without them the method is bound. -/
theorem bind_fails_with_first_fault_struct :
    let b : Binder := ⟨2⟩
    let name : ImportName := ⟨"env", "sum"⟩
    let c : Callable := ⟨0, .reflective fun _ => .ok none⟩
    let m : Method :=
      { name := "add", params := [.num .i32, .struct "Point", .array .u8], result := some .unit,
        body := some c }
    First (Fault b name m) (.unsupported (.struct "Point") (.param 1)) ∧
      First (Fault b name { m with body := none, receiver := .bound }) (.missing .body) ∧
      { m with params := [.num .i32, .num .f64] }.Bindable b name ∧
      (b.bind name { m with params := [.num .i32, .num .f64] }).answer =
        .ok ⟨name, ⟨[.i32, .f64], none⟩, c⟩ := by
  intro b name c m
  have bound : (b.bind name { m with params := [.num .i32, .num .f64] }).answer =
      .ok ⟨name, ⟨[.i32, .f64], none⟩, c⟩ := rfl
  have first {m : Method} {e : BindError} (failed : (b.bind name m).answer = .error e) :
      First (Fault b name m) e := by
    obtain ⟨-, -, answers⟩ := bind_fails_with_first_fault b name m
    exact (answers e).1 failed
  obtain ⟨success, -, -⟩ :=
    bind_fails_with_first_fault b name { m with params := [.num .i32, .num .f64] }
  exact ⟨first rfl, first rfl, success.1 ⟨_, bound⟩, bound⟩

end Embedder
