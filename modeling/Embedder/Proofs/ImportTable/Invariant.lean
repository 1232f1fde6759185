import Embedder.Proofs.Binder
import Embedder.Proofs.ImportTable.Run
import Mathlib.Algebra.Ring.Nat
import Mathlib.Data.List.Permutation

/-!
The parts of an import table tell the same story. Two of them stand for what the entries already
say: the names that are taken and the number of functions. Two more stand for each other: the
signatures in order and the map from a signature to its place. A push changes up to five parts at
once, so the invariant speaks of all of them; one lemma tells all that a push can do, and a run
keeps what a push keeps.
-/

namespace Embedder.ImportTable

/-! ### The invariant -/

/-- The signatures of a table's functions, each where it came first. -/
def usedSignatures (t : ImportTable) : List Signature := (t.functions.map (·.signature)).eraseDups

@[simp] theorem usedSignatures_intern (t : ImportTable) (s : Signature) :
    (t.intern s).2.usedSignatures = t.usedSignatures := by
  rw [usedSignatures, functions_intern, usedSignatures]

@[simp] theorem usedSignatures_addResource (t : ImportTable) (name : ImportName) (r : Resource) :
    (t.addResource name r).usedSignatures = t.usedSignatures := by
  rw [usedSignatures, functions_addResource, usedSignatures]

/-- What the parts of a table say of each other. -/
structure Consistent (t : ImportTable) : Prop where
  /-- No two imports go by one pair of names. -/
  nodup_names : (t.imports.map Import.name).Nodup
  /-- The names that are taken are those of the imports. -/
  mem_names : ∀ n, n ∈ t.names ↔ n ∈ t.imports.map Import.name
  /-- The functions are counted, and their number is an index. -/
  functionCount : t.functionCount = t.functions.length ∧ t.functionCount < indexLimit
  /-- A function points at its own signature. -/
  typeIndex : ∀ f i, .function f i ∈ t.entries → t.signatures[i]? = some f.signature
  /-- The signatures of the functions come first, in the order in which they came. -/
  signatures : t.usedSignatures <+: t.signatures.toList
  /-- As long as a function can be added there are no others. -/
  room : t.functionCount + 1 < indexLimit → t.signatures.toList = t.usedSignatures
  /-- Each signature has a place that is an index. -/
  size : t.signatures.size ≤ indexLimit
  /-- The map gives each signature its place. -/
  typeIndices : ∀ s i, t.typeIndex? s = some i ↔ t.signatures[i]? = some s

theorem consistent_empty : empty.Consistent where
  nodup_names := List.nodup_nil
  mem_names := by simp [empty, imports]
  functionCount := ⟨rfl, by decide⟩
  typeIndex := by simp [empty]
  signatures := List.nil_prefix
  room := fun _ => rfl
  size := Nat.zero_le _
  typeIndices := by simp [empty, typeIndex?]

variable {t : ImportTable}

/-- A signature without a place is not among those that have one. -/
theorem Consistent.typeIndex?_eq_none_iff (h : t.Consistent) (s : Signature) :
    t.typeIndex? s = none ↔ s ∉ t.signatures := by
  rw [Option.eq_none_iff_forall_ne_some, Array.mem_iff_getElem?, not_exists]
  exact forall_congr' fun i => not_congr (h.typeIndices s i)

theorem mem_usedSignatures_iff (s : Signature) :
    s ∈ t.usedSignatures ↔ ∃ f ∈ t.functions, f.signature = s := by
  rw [usedSignatures, List.mem_eraseDups, List.mem_map]

/-- A name that is free goes to one more import. -/
theorem Consistent.nodup_concat (h : t.Consistent) {i : Import} (hn : i.name ∉ t.names) :
    ((t.imports ++ [i]).map Import.name).Nodup := by
  rw [List.map_append, List.map_singleton, List.nodup_append]
  refine ⟨h.nodup_names, by simp, ?_⟩
  rintro n hm m hm' rfl
  rw [List.mem_singleton.1 hm'] at hm
  exact hn ((h.mem_names _).2 hm)

theorem Consistent.mem_insert (h : t.Consistent) (i : Import) (n : ImportName) :
    n ∈ t.names.insert i.name ↔ n ∈ (t.imports ++ [i]).map Import.name := by
  rw [Std.HashSet.mem_insert, h.mem_names, List.map_append, List.mem_append, List.map_singleton,
    List.mem_singleton, beq_iff_eq, or_comm, eq_comm]

theorem Consistent.addResource (h : t.Consistent) {name : ImportName} (r : Resource)
    (hn : name ∉ t.names) : (t.addResource name r).Consistent where
  nodup_names := by
    rw [imports_addResource]
    exact h.nodup_concat hn
  mem_names n := by
    rw [imports_addResource]
    exact h.mem_insert (.resource name r) n
  functionCount := by
    rw [functions_addResource]
    exact h.functionCount
  typeIndex f i hm := by
    rcases Array.mem_push.1 hm with hm | hm
    · exact h.typeIndex f i hm
    · cases hm
  signatures := by
    rw [usedSignatures_addResource]
    exact h.signatures
  room room := by
    rw [usedSignatures_addResource]
    exact h.room room
  size := h.size
  typeIndices := h.typeIndices

/-! ### Signatures -/

/-- The signature stands where it was put. -/
theorem Consistent.getElem?_intern (h : t.Consistent) {s : Signature} {k : Nat}
    (hk : (t.intern s).1 = .ok k) : (t.intern s).2.signatures[k]? = some s := by
  obtain ⟨_, known, e⟩ | ⟨-, ⟨-, e⟩ | ⟨-, e⟩⟩ := t.intern_cases s <;> rw [e] at hk ⊢ <;> cases hk
  · exact (h.typeIndices s k).1 known
  · exact Array.getElem?_push_size

theorem Consistent.signatures_intern (h : t.Consistent) {s : Signature} {k : Nat}
    (hk : (t.intern s).1 = .ok k) : (t.intern s).2.signatures.toList =
      if s ∈ t.signatures.toList then t.signatures.toList else t.signatures.toList ++ [s] := by
  simp only [Array.mem_toList_iff]
  obtain ⟨_, known, e⟩ | ⟨new, ⟨-, e⟩ | ⟨-, e⟩⟩ := t.intern_cases s <;> rw [e] at hk ⊢ <;> cases hk
  · rw [if_pos (Array.mem_of_getElem? ((h.typeIndices s k).1 known))]
  · rw [if_neg ((h.typeIndex?_eq_none_iff s).1 new), addSignature, Array.toList_push]

theorem size_intern_le (h : t.signatures.size ≤ indexLimit) (s : Signature) :
    (t.intern s).2.signatures.size ≤ indexLimit := by
  obtain ⟨_, -, e⟩ | ⟨-, ⟨room, e⟩ | ⟨-, e⟩⟩ := t.intern_cases s <;> rw [e]
  · exact h
  · rw [addSignature, Array.size_push]
    exact room
  · exact h

theorem Consistent.typeIndices_addSignature (h : t.Consistent) {s : Signature}
    (new : t.typeIndex? s = none) (s' : Signature) (i : Nat) :
    (t.addSignature s).typeIndex? s' = some i ↔ (t.addSignature s).signatures[i]? = some s' := by
  show (t.typeIndices.insert s t.signatures.size)[s']? = some i ↔
    (t.signatures.push s)[i]? = some s'
  rw [Std.HashMap.getElem?_insert, Array.getElem?_push]
  have old : t.typeIndices[s']? = some i ↔ t.signatures[i]? = some s' := h.typeIndices s' i
  by_cases hs : s = s'
  · subst hs
    -- nothing but the new place holds the new signature
    have hfree : t.signatures[i]? ≠ some s := fun hi => by simp [(h.typeIndices s i).2 hi] at new
    by_cases hi : i = t.signatures.size <;> simp [hi, hfree, eq_comm]
  · by_cases hi : i = t.signatures.size
    · -- and the new place held nothing before
      have hout : t.typeIndices[s']? ≠ some i := fun h' => by simpa [hi] using old.1 h'
      subst hi
      simpa [hs] using hout
    · simpa [hi, hs] using old

theorem Consistent.typeIndices_intern (h : t.Consistent) (s s' : Signature) (i : Nat) :
    (t.intern s).2.typeIndex? s' = some i ↔ (t.intern s).2.signatures[i]? = some s' := by
  obtain ⟨_, -, e⟩ | ⟨new, ⟨-, e⟩ | ⟨-, e⟩⟩ := t.intern_cases s <;> rw [e]
  · exact h.typeIndices s' i
  · exact h.typeIndices_addSignature new s' i
  · exact h.typeIndices s' i

/-- No signature has two places. -/
theorem Consistent.nodup_signatures (h : t.Consistent) : t.signatures.toList.Nodup := by
  refine List.pairwise_iff_getElem.2 fun i j hi hj hij e => ?_
  have hs : t.typeIndex? t.signatures.toList[i] = some i := (h.typeIndices _ i).2 (by simp)
  have hs' : t.typeIndex? t.signatures.toList[i] = some j := (h.typeIndices _ j).2 (by simp [e])
  rw [hs, Option.some.injEq] at hs'
  omega

/-- As long as a function can be added there are no more signatures than functions, so one can be
added as well. -/
theorem Consistent.size_signatures_lt (h : t.Consistent) (room : t.functionCount + 1 < indexLimit) :
    t.signatures.size < indexLimit := by
  have sub : t.signatures.toList ⊆ t.functions.map (·.signature) := by
    intro s hs
    rw [h.room room, usedSignatures, List.mem_eraseDups] at hs
    exact hs
  have le := (List.subperm_of_subset h.nodup_signatures sub).length_le
  rw [List.length_map, ← h.functionCount.1, Array.length_toList] at le
  omega

theorem Consistent.exists_intern_eq_ok (h : t.Consistent) (room : t.functionCount + 1 < indexLimit)
    (s : Signature) : ∃ k u, t.intern s = (.ok k, u) := by
  obtain ⟨k, -, e⟩ | ⟨-, ⟨-, e⟩ | ⟨full, -⟩⟩ := t.intern_cases s
  · exact ⟨k, _, e⟩
  · exact ⟨_, _, e⟩
  · have := h.size_signatures_lt room
    omega

/-- An element that is there already is erased, a new one stays at the end. -/
theorem eraseDups_concat [BEq α] [LawfulBEq α] (l : List α) (a : α) :
    (l ++ [a]).eraseDups = if a ∈ l then l.eraseDups else l.eraseDups ++ [a] := by
  rw [List.eraseDups_append]
  split <;> simp [List.removeAll, List.eraseDups_cons, *]

/-- One more function adds its signature unless it is there. -/
theorem usedSignatures_addFunction (f : FunctionImport) (k : Nat) :
    (t.addFunction f k).usedSignatures =
      if f.signature ∈ t.usedSignatures then t.usedSignatures
      else t.usedSignatures ++ [f.signature] := by
  rw [usedSignatures, functions_addFunction, List.map_append, List.map_singleton, eraseDups_concat,
    ← usedSignatures]
  simp only [usedSignatures, List.mem_eraseDups]

/-- A function that is added leaves no signatures but those of the functions. -/
theorem Consistent.signatures_addFunction (h : t.Consistent) {f : FunctionImport} {k : Nat}
    (room : t.functionCount + 1 < indexLimit) (hk : (t.intern f.signature).1 = .ok k) :
    (t.addFunction f k).signatures.toList = (t.addFunction f k).usedSignatures := by
  have hs : (t.addFunction f k).signatures = (t.intern f.signature).2.signatures := rfl
  rw [hs, h.signatures_intern hk, usedSignatures_addFunction, h.room room]

/-! ### Pushes -/

/-- The signature of a function that no index is left for. -/
theorem Consistent.intern (h : t.Consistent) (full : indexLimit ≤ t.functionCount + 1)
    (s : Signature) : (t.intern s).2.Consistent where
  nodup_names := by
    rw [imports_intern]
    exact h.nodup_names
  mem_names n := by
    rw [names_intern, imports_intern]
    exact h.mem_names n
  functionCount := by
    rw [functionCount_intern, functions_intern]
    exact h.functionCount
  typeIndex f i hm := by
    rw [entries_intern] at hm
    exact (t.keptBy_intern s).getElem?_signatures (h.typeIndex f i hm)
  signatures := by
    rw [usedSignatures_intern]
    exact h.signatures.trans (t.keptBy_intern s).signatures
  room room := by
    rw [functionCount_intern] at room
    omega
  size := size_intern_le h.size s
  typeIndices := h.typeIndices_intern s

theorem Consistent.addFunction (h : t.Consistent) {f : FunctionImport} {k : Nat}
    (hn : f.name ∉ t.names) (room : t.functionCount + 1 < indexLimit)
    (hk : (t.intern f.signature).1 = .ok k) : (t.addFunction f k).Consistent where
  nodup_names := by
    rw [imports_addFunction]
    exact h.nodup_concat hn
  mem_names n := by
    rw [imports_addFunction, names_addFunction]
    exact h.mem_insert (.function f) n
  functionCount := by
    rw [functions_addFunction, List.length_append, ← h.functionCount.1]
    exact ⟨rfl, room⟩
  typeIndex g i hm := by
    rw [entries_addFunction] at hm
    rcases Array.mem_push.1 hm with hm | hm
    · exact (t.keptBy_addFunction f k).getElem?_signatures (h.typeIndex g i hm)
    · cases hm
      exact h.getElem?_intern hk
  signatures := (h.signatures_addFunction room hk) ▸ List.prefix_rfl
  room _ := h.signatures_addFunction room hk
  size := size_intern_le h.size f.signature
  typeIndices := h.typeIndices_intern f.signature

theorem Consistent.pushed (h : t.Consistent) (i : Import) : (t.pushed i).Consistent := by
  obtain e | ⟨f, rfl, full, e⟩ | ⟨hn, ⟨f, k, rfl, room, hk, e⟩ | ⟨name, r, rfl, e⟩⟩ :=
    t.pushed_cases i <;> rw [e]
  · exact h
  · exact h.intern full f.signature
  · exact h.addFunction hn room hk
  · exact h.addResource r hn

theorem Consistent.functionCount_eq (h : t.Consistent) :
    t.functionCount = t.countOf .function := by
  rw [h.functionCount.1, ← length_ofKind, ← map_function_functions, List.length_map]

/-- A push that is answered by an index adds the import at the end of its kind. -/
theorem Consistent.pushed_of_answer_ok (h : t.Consistent) {i : Import} {index : Nat}
    (ha : t.answer i = .ok index) :
    index = t.countOf i.kind ∧ (t.pushed i).imports = t.imports ++ [i] := by
  unfold answer at ha
  unfold ImportTable.pushed
  obtain ⟨_, e⟩ | ⟨_, -, -, e⟩ | ⟨-, ⟨f, k, rfl, -, -, e⟩ | ⟨name, r, rfl, -, e⟩⟩ :=
    t.push_cases i <;>
    rw [e] at ha ⊢ <;> cases ha
  · exact ⟨h.functionCount_eq, t.imports_addFunction f k⟩
  · exact ⟨rfl, t.imports_addResource name r⟩

/-- As long as indices are left only the names decide. -/
theorem Consistent.answer_eq (h : t.Consistent) (room : t.imports.length + 1 < indexLimit)
    (i : Import) : t.answer i =
      if i.name ∈ t.imports.map Import.name then .error (.duplicateImport i.name)
      else .ok (t.countOf i.kind) := by
  have count (kind : ExternalKind) : t.countOf kind ≤ t.imports.length := List.countP_le_length
  unfold answer push
  simp only [Std.HashSet.contains_iff_mem, h.mem_names]
  by_cases hn : i.name ∈ t.imports.map Import.name
  · rw [if_pos hn, if_pos hn]
  · rw [if_neg hn, if_neg hn]
    cases i with
    | function f =>
      have functions := h.functionCount_eq
      have few := count .function
      obtain ⟨k, u, interned⟩ := h.exists_intern_eq_ok (by omega) f.signature
      have same : u.functionCount = t.functionCount := by
        rw [← t.functionCount_intern f.signature, interned]
      simp only [interned, same]
      rw [if_pos (by omega)]
      exact congrArg Except.ok functions
    | resource name r =>
      have few := count r.kind
      simp only
      rw [if_pos (by omega)]
      rfl

/-! ### Runs -/

theorem Consistent.run (is : List Import) (h : t.Consistent) : (t.pushAll is).2.Consistent :=
  run_of_pushed (fun _ i h => h.pushed i) is h

/-- There are no more functions than pushes. -/
theorem functionCount_run_le (is : List Import) :
    (empty.pushAll is).2.functionCount ≤ is.length := by
  have consistent : (empty.pushAll is).2.Consistent := consistent_empty.run is
  obtain ⟨held, sub, imports⟩ := empty.imports_run_sublist is
  rw [consistent.functionCount_eq, countOf, imports]
  exact Nat.le_trans List.countP_le_length sub.length_le

/-- A run of few enough pushes leaves no signatures but those of the functions. -/
theorem signatures_run {is : List Import} (h : is.length < indexLimit) :
    (empty.pushAll is).2.signatures.toList = (empty.pushAll is).2.usedSignatures := by
  obtain rfl | ⟨before, i, rfl⟩ := List.eq_nil_or_concat' is
  · rfl
  -- before the last push a function could still be added
  have consistent : (empty.pushAll before).2.Consistent := consistent_empty.run before
  have room : (empty.pushAll before).2.functionCount + 1 < indexLimit := by
    have := functionCount_run_le before
    rw [List.length_append, List.length_singleton] at h
    omega
  have others := consistent.room room
  rw [pushAll_concat]
  obtain e | ⟨_, -, full, -⟩ | ⟨-, ⟨f, k, -, -, hk, e⟩ | ⟨name, r, -, e⟩⟩ :=
    (empty.pushAll before).2.pushed_cases i
  · rw [e]
    exact others
  · omega
  · rw [e]
    exact consistent.signatures_addFunction room hk
  · rw [e, usedSignatures_addResource]
    exact others

/-- After any run of pushes, taken or not, the parts of the table agree: names are taken once and by
imports only, functions are counted, only they have types and the types are their own signatures,
each once and where it came first, and a signature is found at its place or nowhere. What a binder
checked holds of every function that is held. And up to `2 ^ 32 - 1` pushes there are no signatures
but those of the functions. -/
theorem parts_agree_after_run (b : Binder) (is : List Import)
    (h : ∀ f, .function f ∈ is → b.Builds f) :
    let t := (empty.pushAll is).2
    t.Consistent ∧ t.signatures.toList.Nodup ∧
    (∀ e ∈ t.entries, e.typeIndex?.isSome ↔ e.toImport.kind = .function) ∧
    (∀ f ∈ t.functions, b.Checked f) ∧
    (is.length < 2 ^ 32 → t.signatures.toList = t.usedSignatures ∧
      (∀ s ∈ t.signatures, ∃ f ∈ t.functions, f.signature = s) ∧
      ∀ s, t.typeIndex? s = none ↔ ∀ f ∈ t.functions, f.signature ≠ s) := by
  intro t
  have ht : t.Consistent := consistent_empty.run is
  refine ⟨ht, ht.nodup_signatures, ?_, ?_, fun few => ?_⟩
  · intro e _
    cases e with
    | function f i => simp [Entry.typeIndex?, Entry.toImport, Import.kind]
    | resource name r =>
      cases r <;> simp [Entry.typeIndex?, Entry.toImport, Import.kind, Resource.kind]
  · intro f hf
    obtain ⟨i, hi, e⟩ := List.mem_filterMap.1 hf
    cases i with
    | function g =>
      cases e
      rcases mem_of_mem_imports_run hi with hi | hi
      · cases hi
      · exact (h f hi).checked
    | resource name r => cases e
  · have used : t.signatures.toList = t.usedSignatures := signatures_run few
    have mem (s : Signature) : s ∈ t.signatures ↔ ∃ f ∈ t.functions, f.signature = s := by
      rw [← Array.mem_toList_iff, used, mem_usedSignatures_iff]
    refine ⟨used, fun s => (mem s).1, fun s => ?_⟩
    rw [ht.typeIndex?_eq_none_iff, mem]
    simp

/-- Two functions of one signature on both sides of a memory, and a name that is taken twice. -/
theorem parts_agree_after_run_mixed :
    let g : TypedFunction := ⟨[.i32], none, fun _ => .ok ()⟩
    let f (exportName : String) : FunctionImport :=
      ⟨⟨"env", exportName⟩, ⟨[.i32], none⟩, ⟨0, .typed g⟩⟩
    let is := [.function (f "log"), .resource ⟨"js", "mem"⟩ (.memory ⟨1, none⟩),
      .function (f "put"), .function (f "log")]
    (∀ f, .function f ∈ is → (⟨1⟩ : Binder).Builds f) ∧ is.length < 2 ^ 32 ∧
      (empty.pushAll is).2.Consistent ∧
      (∀ f ∈ (empty.pushAll is).2.functions, (⟨1⟩ : Binder).Checked f) ∧
      (empty.pushAll is).2.signatures.toList = (empty.pushAll is).2.usedSignatures := by
  intro g f is
  have log : (⟨1⟩ : Binder).Builds (f "log") :=
    .wrap (show (Binder.wrap ⟨1⟩ ⟨"env", "log"⟩ 0 g).answer = _ from rfl)
  have put : (⟨1⟩ : Binder).Builds (f "put") :=
    .wrap (show (Binder.wrap ⟨1⟩ ⟨"env", "put"⟩ 0 g).answer = _ from rfl)
  have h : ∀ f, .function f ∈ is → (⟨1⟩ : Binder).Builds f := by
    intro k hk
    simp only [is, List.mem_cons, Import.function.injEq, reduceCtorEq, List.not_mem_nil, or_false,
      false_or] at hk
    rcases hk with rfl | rfl | rfl
    · exact log
    · exact put
    · exact log
  have few : is.length < 2 ^ 32 := by decide
  obtain ⟨consistent, -, -, checked, used⟩ := parts_agree_after_run ⟨1⟩ is h
  exact ⟨h, few, consistent, checked, (used few).1⟩

end Embedder.ImportTable
