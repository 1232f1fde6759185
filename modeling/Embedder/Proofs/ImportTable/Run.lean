import Embedder.ImportTable

/-!
What a push does to a table, and what a run of pushes does. A push is answered by the table that
those before it have left, and all that it can do is told by one lemma. What it adds stands at the
end, so whatever a table holds it holds in the same place after any run.
-/

namespace Embedder.ImportTable

/-! ### What a push does -/

/-- What a push answers. -/
def answer (t : ImportTable) (i : Import) : Except AssembleError Nat := (t.push i).1

/-- The table after an import was pushed, whether it was taken or not. -/
def pushed (t : ImportTable) (i : Import) : ImportTable := (t.push i).2

/-- The signature has a place already, or it gets the next one, or there is none left. -/
theorem intern_cases (t : ImportTable) (s : Signature) :
    (∃ k, t.typeIndex? s = some k ∧ t.intern s = (.ok k, t)) ∨
    t.typeIndex? s = none ∧
      (t.signatures.size < indexLimit ∧ t.intern s = (.ok t.signatures.size, t.addSignature s) ∨
       indexLimit ≤ t.signatures.size ∧ t.intern s = (.error (.indexOverflow .function), t)) := by
  unfold intern
  cases t.typeIndex? s with
  | some k => exact .inl ⟨k, rfl, rfl⟩
  | none =>
    by_cases room : t.signatures.size < indexLimit
    · exact .inr ⟨rfl, .inl ⟨room, if_pos room⟩⟩
    · exact .inr ⟨rfl, .inr ⟨Nat.le_of_not_lt room, if_neg room⟩⟩

/-- A signature that is refused leaves no trace. -/
theorem snd_intern_of_error {t u : ImportTable} {s : Signature} {e : AssembleError}
    (h : t.intern s = (.error e, u)) : u = t := by
  obtain ⟨_, -, e⟩ | ⟨-, ⟨-, e⟩ | ⟨-, e⟩⟩ := t.intern_cases s <;> cases h.symm.trans e
  rfl

/-- The table with one function more, of that type index. -/
def addFunction (t : ImportTable) (f : FunctionImport) (k : Nat) : ImportTable :=
  { (t.intern f.signature).2 with functionCount := t.functionCount + 1 }.append f.name
    (.function f k)

/-- The table with one import more that is no function. -/
def addResource (t : ImportTable) (name : ImportName) (r : Resource) : ImportTable :=
  t.append name (.resource name r)

section Parts

variable (t : ImportTable) (s : Signature) (f : FunctionImport) (k : Nat) (name : ImportName)
  (r : Resource)

/-- No part but the signatures and their places is touched. -/
theorem exists_snd_intern_eq : ∃ signatures typeIndices,
    (t.intern s).2 = { t with signatures := signatures, typeIndices := typeIndices } := by
  obtain ⟨_, -, e⟩ | ⟨-, ⟨-, e⟩ | ⟨-, e⟩⟩ := t.intern_cases s <;> rw [e] <;> exact ⟨_, _, rfl⟩

@[simp] theorem entries_intern : (t.intern s).2.entries = t.entries := by
  obtain ⟨_, _, e⟩ := t.exists_snd_intern_eq s
  rw [e]

@[simp] theorem names_intern : (t.intern s).2.names = t.names := by
  obtain ⟨_, _, e⟩ := t.exists_snd_intern_eq s
  rw [e]

@[simp] theorem functionCount_intern : (t.intern s).2.functionCount = t.functionCount := by
  obtain ⟨_, _, e⟩ := t.exists_snd_intern_eq s
  rw [e]

/-- A signature is no import. -/
@[simp] theorem imports_intern : (t.intern s).2.imports = t.imports := by
  rw [imports, entries_intern, imports]

@[simp] theorem imports_addFunction : (t.addFunction f k).imports = t.imports ++ [.function f] := by
  rw [addFunction, imports_append]
  exact congrArg (· ++ _) (t.imports_intern f.signature)

@[simp] theorem imports_addResource :
    (t.addResource name r).imports = t.imports ++ [.resource name r] :=
  imports_append t name _

@[simp] theorem names_addFunction : (t.addFunction f k).names = t.names.insert f.name := by
  simp [addFunction, append]

@[simp] theorem entries_addFunction :
    (t.addFunction f k).entries = t.entries.push (.function f k) := by
  simp [addFunction, append]

@[simp] theorem functions_intern : (t.intern s).2.functions = t.functions := by
  rw [functions, imports_intern, functions]

@[simp] theorem functions_addFunction : (t.addFunction f k).functions = t.functions ++ [f] := by
  rw [functions, imports_addFunction, List.filterMap_append]
  rfl

@[simp] theorem functions_addResource : (t.addResource name r).functions = t.functions := by
  rw [functions, imports_addResource, List.filterMap_append]
  exact List.append_nil _

end Parts

/-- A push is refused and changes nothing; or it is refused for want of an index, and the signature
of the function stays; or it adds to the entries, under a name that was free. -/
theorem push_cases (t : ImportTable) (i : Import) :
    (∃ e, t.push i = (.error e, t)) ∨
    (∃ f, i = .function f ∧ indexLimit ≤ t.functionCount + 1 ∧
      t.push i = (.error (.indexOverflow .function), (t.intern f.signature).2)) ∨
    i.name ∉ t.names ∧
      ((∃ f k, i = .function f ∧ t.functionCount + 1 < indexLimit ∧
          (t.intern f.signature).1 = .ok k ∧ t.push i = (.ok t.functionCount, t.addFunction f k)) ∨
       (∃ name r, i = .resource name r ∧ t.countOf r.kind < indexLimit ∧
          t.push i = (.ok (t.countOf r.kind), t.addResource name r))) := by
  unfold push
  by_cases taken : t.names.contains i.name
  · exact .inl ⟨_, if_pos taken⟩
  have free : i.name ∉ t.names := taken
  rw [if_neg taken]
  cases i with
  | function f =>
    cases interned : t.intern f.signature with
    | mk index u =>
      cases index with
      | error e =>
        obtain rfl := snd_intern_of_error interned
        exact .inl ⟨e, by simp only [interned]⟩
      | ok k =>
        have count : u.functionCount = t.functionCount := by
          rw [← t.functionCount_intern f.signature, interned]
        simp only [interned, count]
        by_cases room : t.functionCount + 1 < indexLimit
        · refine .inr (.inr ⟨free, .inl ⟨f, k, rfl, room, by rw [interned], ?_⟩⟩)
          rw [if_pos room, addFunction, interned]
          rfl
        · refine .inr (.inl ⟨f, rfl, Nat.le_of_not_lt room, ?_⟩)
          rw [if_neg room, interned]
  | resource name r =>
    by_cases room : t.countOf r.kind < indexLimit
    · exact .inr (.inr ⟨free, .inr ⟨name, r, rfl, room, if_pos room⟩⟩)
    · exact .inl ⟨_, if_neg room⟩

variable {t u v : ImportTable} {i j : Import}

/-- What every push comes to for the table alone. -/
theorem pushed_cases (t : ImportTable) (i : Import) :
    t.pushed i = t ∨
    (∃ f, i = .function f ∧ indexLimit ≤ t.functionCount + 1 ∧
      t.pushed i = (t.intern f.signature).2) ∨
    i.name ∉ t.names ∧
      ((∃ f k, i = .function f ∧ t.functionCount + 1 < indexLimit ∧
          (t.intern f.signature).1 = .ok k ∧ t.pushed i = t.addFunction f k) ∨
       (∃ name r, i = .resource name r ∧ t.pushed i = t.addResource name r)) := by
  unfold pushed
  obtain ⟨_, e⟩ | ⟨f, rfl, full, e⟩ | ⟨free, ⟨f, k, rfl, room, hk, e⟩ | ⟨name, r, rfl, -, e⟩⟩ :=
    t.push_cases i
  · exact .inl (by rw [e])
  · exact .inr (.inl ⟨f, rfl, full, by rw [e]⟩)
  · exact .inr (.inr ⟨free, .inl ⟨f, k, rfl, room, hk, by rw [e]⟩⟩)
  · exact .inr (.inr ⟨free, .inr ⟨name, r, rfl, by rw [e]⟩⟩)

/-- A push that is refused leaves at most the signature of a function that no index was left for. -/
theorem pushed_cases_of_answer_error {e : AssembleError} (h : t.answer i = .error e) :
    t.pushed i = t ∨ indexLimit ≤ t.functionCount + 1 ∧ ∃ s, t.pushed i = (t.intern s).2 := by
  unfold answer at h
  unfold pushed
  obtain ⟨_, e⟩ | ⟨f, -, full, e⟩ | ⟨-, ⟨_, _, -, -, -, e⟩ | ⟨_, _, -, -, e⟩⟩ := t.push_cases i
  · exact .inl (by rw [e])
  · exact .inr ⟨full, f.signature, by rw [e]⟩
  · cases (congrArg Prod.fst e).symm.trans h
  · cases (congrArg Prod.fst e).symm.trans h

/-- A refused import is not held. -/
theorem imports_pushed_of_answer_error {e : AssembleError} (h : t.answer i = .error e) :
    (t.pushed i).imports = t.imports := by
  obtain e | ⟨-, s, e⟩ := pushed_cases_of_answer_error h
  · rw [e]
  · rw [e, imports_intern]

/-- As long as an index is left, a push that is refused changes nothing. -/
theorem pushed_of_answer_error (room : t.functionCount + 1 < indexLimit) {e : AssembleError}
    (h : t.answer i = .error e) : t.pushed i = t :=
  (pushed_cases_of_answer_error h).resolve_right fun ⟨full, _⟩ => Nat.not_lt_of_le full room

/-- The import that is pushed is held at the end, or not at all. -/
theorem imports_pushed_cases (t : ImportTable) (i : Import) :
    (t.pushed i).imports = t.imports ∨ (t.pushed i).imports = t.imports ++ [i] := by
  obtain e | ⟨_, -, -, e⟩ | ⟨-, ⟨_, _, rfl, -, -, e⟩ | ⟨_, _, rfl, e⟩⟩ := t.pushed_cases i
  · exact .inl (by rw [e])
  · exact .inl (by rw [e, imports_intern])
  · exact .inr (by rw [e, imports_addFunction])
  · exact .inr (by rw [e, imports_addResource])

/-! ### Runs -/

theorem pushAll_cons (t : ImportTable) (i : Import) (is : List Import) : t.pushAll (i :: is) =
    (t.answer i :: ((t.pushed i).pushAll is).1, ((t.pushed i).pushAll is).2) := rfl

theorem pushAll_append : ∀ (t : ImportTable) (is js : List Import), t.pushAll (is ++ js) =
    ((t.pushAll is).1 ++ ((t.pushAll is).2.pushAll js).1, ((t.pushAll is).2.pushAll js).2)
  | _, [], _ => rfl
  | t, i :: is, js => by
    rw [List.cons_append, pushAll_cons, pushAll_cons, pushAll_append (t.pushed i) is js]
    rfl

/-- A run goes on with one push more. -/
theorem pushAll_concat (t : ImportTable) (is : List Import) (i : Import) : t.pushAll (is ++ [i]) =
    ((t.pushAll is).1 ++ [(t.pushAll is).2.answer i], (t.pushAll is).2.pushed i) := by
  rw [pushAll_append, pushAll_cons]
  rfl

/-- What every push keeps a run keeps. -/
theorem run_of_pushed {P : ImportTable → Prop} (step : ∀ t i, P t → P (t.pushed i)) :
    ∀ {t : ImportTable} (is : List Import), P t → P (t.pushAll is).2
  | _, [], h => h
  | t, i :: is, h => by
    rw [pushAll_cons]
    exact run_of_pushed step is (step t i h)

@[simp] theorem length_answers (t : ImportTable) (is : List Import) :
    (t.pushAll is).1.length = is.length := by
  induction is generalizing t with
  | nil => rfl
  | cons i is ih => simp [pushAll_cons, ih]

/-- Each push is answered by the table that those before it have left. -/
theorem getElem?_answers (t : ImportTable) (is : List Import) (n : Nat) :
    (t.pushAll is).1[n]? = is[n]?.map (t.pushAll (is.take n)).2.answer := by
  induction is generalizing t n with
  | nil => rfl
  | cons i is ih =>
    cases n with
    | zero =>
      rw [pushAll_cons]
      rfl
    | succ n => simp [pushAll_cons, ih]

/-- What a run adds are some of the imports that are pushed, in their order. -/
theorem imports_run_sublist : ∀ (t : ImportTable) (is : List Import),
    ∃ held, held.Sublist is ∧ (t.pushAll is).2.imports = t.imports ++ held
  | t, [] => ⟨[], .slnil, (List.append_nil t.imports).symm⟩
  | t, i :: is => by
    obtain ⟨held, sub, imports⟩ := imports_run_sublist (t.pushed i) is
    rw [pushAll_cons]
    obtain e | e := t.imports_pushed_cases i <;> rw [e] at imports
    · exact ⟨held, sub.cons i, imports⟩
    · exact ⟨i :: held, sub.cons_cons i, by rw [imports, List.append_assoc]; rfl⟩

/-- Every held import was pushed. -/
theorem mem_of_mem_imports_run {is : List Import} (h : j ∈ (t.pushAll is).2.imports) :
    j ∈ t.imports ∨ j ∈ is := by
  obtain ⟨held, sub, imports⟩ := t.imports_run_sublist is
  rw [imports, List.mem_append] at h
  exact h.imp_right fun hj => sub.subset hj

/-! ### What a table keeps -/

/-- The imports of one kind, each at its index. -/
def ofKind (t : ImportTable) (kind : ExternalKind) : List Import :=
  t.imports.filter fun i => i.kind = kind

theorem length_ofKind (t : ImportTable) (kind : ExternalKind) :
    (t.ofKind kind).length = t.countOf kind := List.countP_eq_length_filter.symm

/-- The functions stand at the same places among the imports of their kind. -/
theorem map_function_functions (t : ImportTable) :
    t.functions.map Import.function = t.ofKind .function := by
  rw [functions, ofKind]
  induction t.imports with
  | nil => rfl
  | cons i is ih =>
    cases i with
    | function f => exact congrArg (Import.function f :: ·) ih
    | resource name r => cases r <;> exact ih

/-- All that one table holds has the same place in the other. -/
structure KeptBy (t u : ImportTable) : Prop where
  /-- Imports keep their positions and functions their type indices. -/
  entries : t.entries.toList <+: u.entries.toList
  /-- Imports keep their indices. -/
  ofKind : ∀ kind, t.ofKind kind <+: u.ofKind kind
  /-- No signature is moved or taken out. -/
  signatures : t.signatures.toList <+: u.signatures.toList
  /-- A signature that had an index is still found there. -/
  typeIndex? : ∀ s i, t.typeIndex? s = some i → u.typeIndex? s = some i

theorem KeptBy.refl (t : ImportTable) : t.KeptBy t :=
  ⟨List.prefix_rfl, fun _ => List.prefix_rfl, List.prefix_rfl, fun _ _ => id⟩

theorem KeptBy.trans (h : t.KeptBy u) (h' : u.KeptBy v) : t.KeptBy v :=
  ⟨h.entries.trans h'.entries, fun kind => (h.ofKind kind).trans (h'.ofKind kind),
    h.signatures.trans h'.signatures, fun s i hs => h'.typeIndex? s i (h.typeIndex? s i hs)⟩

theorem KeptBy.getElem?_signatures (h : t.KeptBy u) {s : Signature} {k : Nat}
    (hs : t.signatures[k]? = some s) : u.signatures[k]? = some s := by
  obtain ⟨rest, e⟩ := h.signatures
  obtain ⟨lt, -⟩ := Array.getElem?_eq_some_iff.1 hs
  rw [← Array.getElem?_toList, ← e, List.getElem?_append_left lt, Array.getElem?_toList, hs]

/-- One signature more takes none of the others from its place. -/
theorem keptBy_intern (t : ImportTable) (s : Signature) : t.KeptBy (t.intern s).2 := by
  obtain ⟨_, -, e⟩ | ⟨new, ⟨-, e⟩ | ⟨-, e⟩⟩ := t.intern_cases s <;> rw [e]
  · exact .refl t
  · refine ⟨List.prefix_rfl, fun _ => List.prefix_rfl, ?_, fun s' i hs => ?_⟩
    · rw [addSignature, Array.toList_push]
      exact List.prefix_append _ _
    · have ne : s ≠ s' := by
        rintro rfl
        simp [hs] at new
      show (t.typeIndices.insert s t.signatures.size)[s']? = some i
      rw [Std.HashMap.getElem?_insert, if_neg (by simpa using ne)]
      exact hs
  · exact .refl t

/-- So does one entry more at the end. -/
theorem keptBy_append (t : ImportTable) (name : ImportName) (e : Entry) :
    t.KeptBy (t.append name e) where
  entries := by simp [append]
  ofKind kind := by
    rw [ImportTable.ofKind, ImportTable.ofKind, imports_append]
    exact (List.prefix_append _ _).filter _
  signatures := List.prefix_rfl
  typeIndex? _ _ := id

theorem keptBy_addFunction (t : ImportTable) (f : FunctionImport) (k : Nat) :
    t.KeptBy (t.addFunction f k) := by
  obtain ⟨entries, ofKind, signatures, typeIndex?⟩ := t.keptBy_intern f.signature
  -- the number of functions is no part of what is kept
  have counted : t.KeptBy { (t.intern f.signature).2 with functionCount := t.functionCount + 1 } :=
    ⟨entries, ofKind, signatures, typeIndex?⟩
  exact counted.trans (keptBy_append _ f.name (.function f k))

theorem keptBy_pushed (t : ImportTable) (i : Import) : t.KeptBy (t.pushed i) := by
  obtain e | ⟨f, -, -, e⟩ | ⟨-, ⟨f, k, -, -, -, e⟩ | ⟨name, r, -, e⟩⟩ := t.pushed_cases i <;> rw [e]
  · exact .refl t
  · exact t.keptBy_intern f.signature
  · exact t.keptBy_addFunction f k
  · exact t.keptBy_append name (.resource name r)

theorem keptBy_run (t : ImportTable) (is : List Import) : t.KeptBy (t.pushAll is).2 :=
  run_of_pushed (fun u i h => h.trans (u.keptBy_pushed i)) is (.refl t)

end Embedder.ImportTable
