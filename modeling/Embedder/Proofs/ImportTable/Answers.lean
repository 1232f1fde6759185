import Embedder.Proofs.ImportTable.Invariant
import Mathlib.Data.List.Induction

/-!
The answers to a run of pushes can be told from the sequence alone: an import is taken when none
before it has its name, and its index is the number of those of its kind that were taken before it.
The table holds just the imports that were taken, in the order in which they came.
-/

namespace Embedder.ImportTable

variable {t : ImportTable}

/-! ### What a sequence tells -/

/-- The imports of a sequence that come first under their names. -/
def firstNamed : List Import → List Import
  | [] => []
  | i :: is => i :: (firstNamed is).filter fun j => j.name ≠ i.name

/-- The answer to an import that comes after others: only their names and kinds matter. -/
def answerAfter (before : List Import) (i : Import) : Except AssembleError Nat :=
  if i.name ∈ before.map Import.name then .error (.duplicateImport i.name)
  else .ok ((firstNamed before).countP fun j => j.kind = i.kind)

theorem mem_map_name_firstNamed (n : ImportName) (is : List Import) :
    n ∈ (firstNamed is).map Import.name ↔ n ∈ is.map Import.name := by
  induction is with
  | nil => rfl
  | cons i is ih =>
    simp only [List.mem_map] at ih
    by_cases h : n = i.name
    · simp [firstNamed, h]
    · simp only [firstNamed, List.map_cons, List.mem_cons, h, false_or, List.mem_map,
        List.mem_filter, decide_eq_true_eq]
      constructor
      · rintro ⟨j, ⟨hj, -⟩, rfl⟩
        exact ih.1 ⟨j, hj, rfl⟩
      · intro hn
        obtain ⟨j, hj, rfl⟩ := ih.2 hn
        exact ⟨j, ⟨hj, h⟩, rfl⟩

/-- One import more comes first under its name or is left out. -/
theorem firstNamed_concat (is : List Import) (i : Import) :
    firstNamed (is ++ [i]) =
      if i.name ∈ is.map Import.name then firstNamed is else firstNamed is ++ [i] := by
  induction is with
  | nil => rfl
  | cons j is ih =>
    rw [List.cons_append, firstNamed, ih]
    by_cases h : i.name ∈ is.map Import.name
    · have again : i.name ∈ (j :: is).map Import.name := List.mem_cons_of_mem _ h
      rw [if_pos h, if_pos again, firstNamed]
    · rw [if_neg h]
      by_cases hj : i.name = j.name
      · simp [firstNamed, hj]
      · rw [if_neg (by simpa [hj] using h)]
        simp [firstNamed, hj]

theorem length_firstNamed_le (is : List Import) : (firstNamed is).length ≤ is.length := by
  induction is with
  | nil => exact Nat.le_refl 0
  | cons i is ih =>
    have := List.length_filter_le (fun j : Import => decide (j.name ≠ i.name)) (firstNamed is)
    simp only [firstNamed, List.length_cons]
    omega

/-! ### Runs -/

/-- A table of the imports that came first answers as the sequence tells. -/
theorem Consistent.answer_eq_answerAfter (h : t.Consistent) {is : List Import}
    (imports : t.imports = firstNamed is) (few : is.length + 1 < indexLimit) (i : Import) :
    t.answer i = answerAfter is i := by
  have room : t.imports.length + 1 < indexLimit := by
    have := length_firstNamed_le is
    rw [imports]
    omega
  rw [h.answer_eq room, answerAfter, countOf, imports]
  simp only [mem_map_name_firstNamed]

/-- A run of few enough pushes leaves the imports that came first under their names. -/
theorem imports_run {is : List Import} (h : is.length < indexLimit) :
    (empty.pushAll is).2.imports = firstNamed is := by
  induction is using List.reverseRecOn with
  | nil => rfl
  | append_singleton is i ih =>
    rw [List.length_append, List.length_singleton] at h
    have imports := ih (by omega)
    have consistent : (empty.pushAll is).2.Consistent := consistent_empty.run is
    have told := consistent.answer_eq_answerAfter imports h i
    rw [pushAll_concat, firstNamed_concat]
    unfold answerAfter at told
    split at told
    · rw [if_pos ‹_›, imports_pushed_of_answer_error told, imports]
    · rw [if_neg ‹_›, (consistent.pushed_of_answer_ok told).2, imports]

/-- The answers to a run of few enough pushes are those that the sequence tells. -/
theorem answers_run {is : List Import} (h : is.length < indexLimit) :
    (empty.pushAll is).1 = is.mapIdx fun n i => answerAfter (is.take n) i := by
  refine List.ext_getElem? fun n => ?_
  rw [getElem?_answers, List.getElem?_mapIdx]
  cases hi : is[n]? with
  | none => rfl
  | some i =>
    obtain ⟨hn, -⟩ := List.getElem?_eq_some_iff.1 hi
    have few : (is.take n).length + 1 < indexLimit := by
      rw [List.length_take]
      omega
    have consistent : (empty.pushAll (is.take n)).2.Consistent := consistent_empty.run _
    exact congrArg some (consistent.answer_eq_answerAfter (imports_run (by omega)) few i)

/-! ### Indices -/

/-- The indices that the imports of a kind were given, in the order of the pushes. -/
def indicesOf (kind : ExternalKind) (is : List Import) (answers : List (Except AssembleError Nat)) :
    List Nat :=
  (is.zip answers).filterMap fun (i, a) => if i.kind = kind then a.toOption else none

theorem getElem?_concat_eq_some_iff {l : List α} {a b : α} {n : Nat} :
    (l ++ [a])[n]? = some b ↔ l[n]? = some b ∨ n = l.length ∧ a = b := by
  rcases Nat.lt_trichotomy n l.length with lt | rfl | gt
  · simp [List.getElem?_append_left lt, Nat.ne_of_lt lt]
  · simp
  · rw [List.getElem?_eq_none (by simpa using Nat.succ_le_of_lt gt),
      List.getElem?_eq_none (Nat.le_of_lt gt)]
    simp [Nat.ne_of_gt gt]

theorem ofKind_pushed_of_answer_error {i : Import} {e : AssembleError} (ha : t.answer i = .error e)
    (kind : ExternalKind) : (t.pushed i).ofKind kind = t.ofKind kind := by
  rw [ofKind, imports_pushed_of_answer_error ha, ofKind]

/-- A push that is answered by an index adds the import at that index of its kind. -/
theorem Consistent.ofKind_pushed_of_answer_ok (h : t.Consistent) {i : Import} {index : Nat}
    (ha : t.answer i = .ok index) : index = (t.ofKind i.kind).length ∧ ∀ kind,
      (t.pushed i).ofKind kind = if i.kind = kind then t.ofKind kind ++ [i] else t.ofKind kind := by
  obtain ⟨rfl, imports⟩ := h.pushed_of_answer_ok ha
  refine ⟨(t.length_ofKind i.kind).symm, fun kind => ?_⟩
  rw [ofKind, imports, List.filter_append, ← ofKind]
  by_cases hk : i.kind = kind <;> simp [hk]

/-- After a push an import stands at an index of its kind if it stood there before, or if it was
pushed and given that index. -/
theorem Consistent.getElem?_ofKind_pushed (h : t.Consistent) {i j : Import} {kind : ExternalKind}
    {index : Nat} : ((t.pushed j).ofKind kind)[index]? = some i ↔
      (t.ofKind kind)[index]? = some i ∨ j = i ∧ i.kind = kind ∧ t.answer j = .ok index := by
  cases ha : t.answer j with
  | error e => simp [ofKind_pushed_of_answer_error ha]
  | ok k =>
    obtain ⟨rfl, after⟩ := h.ofKind_pushed_of_answer_ok ha
    rw [after]
    by_cases hk : j.kind = kind
    · subst hk
      rw [if_pos rfl, getElem?_concat_eq_some_iff]
      grind
    · rw [if_neg hk]
      grind

/-- An import stands at the index that it was given, and every import that stands at an index was
given it. -/
theorem getElem?_ofKind_run {kind : ExternalKind} {index : Nat} {i : Import} (is : List Import) :
    ((empty.pushAll is).2.ofKind kind)[index]? = some i ↔
      ∃ n : Nat, is[n]? = some i ∧ i.kind = kind ∧ (empty.pushAll is).1[n]? = some (.ok index) := by
  induction is using List.reverseRecOn with
  | nil => simp [empty, ofKind, imports, pushAll]
  | append_singleton is j ih =>
    have consistent : (empty.pushAll is).2.Consistent := consistent_empty.run is
    rw [pushAll_concat, consistent.getElem?_ofKind_pushed, ih]
    simp only [getElem?_concat_eq_some_iff, length_answers]
    constructor
    · rintro (⟨n, hi, hk, ha⟩ | ⟨rfl, hk, ha⟩)
      · exact ⟨n, Or.inl hi, hk, Or.inl ha⟩
      · exact ⟨is.length, Or.inr ⟨rfl, rfl⟩, hk, Or.inr ⟨rfl, ha⟩⟩
    · rintro ⟨n, hi | ⟨rfl, rfl⟩, hk, ha | ⟨hn, ha⟩⟩
      · exact Or.inl ⟨n, hi, hk, ha⟩
      · subst hn
        simp at hi
      · simp at ha
      · exact Or.inr ⟨rfl, hk, ha⟩

/-- The indices of a kind are given in order, from zero and one after the other. -/
theorem indicesOf_run (kind : ExternalKind) (is : List Import) :
    indicesOf kind is (empty.pushAll is).1 = List.range ((empty.pushAll is).2.countOf kind) := by
  induction is using List.reverseRecOn with
  | nil => simp [empty, countOf, imports, pushAll, indicesOf]
  | append_singleton is i ih =>
    have consistent : (empty.pushAll is).2.Consistent := consistent_empty.run is
    rw [pushAll_concat, indicesOf, List.zip_append (by simp), List.filterMap_append, ← indicesOf,
      ih, ← length_ofKind, ← length_ofKind]
    cases ha : (empty.pushAll is).2.answer i with
    | error e => simp [ofKind_pushed_of_answer_error ha, Except.toOption]
    | ok index =>
      obtain ⟨rfl, after⟩ := consistent.ofKind_pushed_of_answer_ok ha
      by_cases hk : i.kind = kind <;> simp [after, hk, Except.toOption, List.range_succ]

theorem getElem?_functions {index : Nat} {f : FunctionImport} :
    t.functions[index]? = some f ↔ (t.ofKind .function)[index]? = some (.function f) := by
  rw [← map_function_functions, List.getElem?_map]
  simp

/-- A refused push of a run of few enough changes nothing. -/
theorem run_of_answer_error {is : List Import} (h : is.length < indexLimit) {n : Nat}
    {e : AssembleError} (ha : (empty.pushAll is).1[n]? = some (.error e)) :
    (empty.pushAll (is.take (n + 1))).2 = (empty.pushAll (is.take n)).2 := by
  rw [getElem?_answers] at ha
  obtain ⟨i, hi, ha⟩ := Option.map_eq_some_iff.1 ha
  have room : (empty.pushAll (is.take n)).2.functionCount + 1 < indexLimit := by
    obtain ⟨hn, -⟩ := List.getElem?_eq_some_iff.1 hi
    have le := functionCount_run_le (is.take n)
    rw [List.length_take] at le
    omega
  rw [List.take_add_one, hi, Option.toList_some, pushAll_concat, pushed_of_answer_error room ha]

/-- What a run of up to `2 ^ 32 - 1` pushes onto an empty table answers can be told from the
sequence: an import is taken if no earlier one has its name, and its index is the number of those of
its kind that were taken before; otherwise it is refused by its name. So the indices of a kind run
from zero without gap or repeat, and the table has at each of them just the import that was given
it, the functions included. A refused import changes no part of the table, and whatever the table
holds at some point of the run it holds in the same place at the end. -/
theorem answers_told_by_sequence (is : List Import) (h : is.length < 2 ^ 32) :
    let answers := (empty.pushAll is).1
    let t := (empty.pushAll is).2
    answers = is.mapIdx (fun n i => answerAfter (is.take n) i) ∧
    (∀ kind, indicesOf kind is answers = List.range (t.countOf kind)) ∧
    (∀ kind index i, (t.ofKind kind)[index]? = some i ↔
      ∃ n : Nat, is[n]? = some i ∧ i.kind = kind ∧ answers[n]? = some (.ok index)) ∧
    (∀ index f, t.functions[index]? = some f ↔
      ∃ n : Nat, is[n]? = some (.function f) ∧ answers[n]? = some (.ok index)) ∧
    (∀ n e, answers[n]? = some (.error e) →
      (empty.pushAll (is.take (n + 1))).2 = (empty.pushAll (is.take n)).2) ∧
    ∀ n, (empty.pushAll (is.take n)).2.KeptBy t := by
  intro answers t
  refine ⟨answers_run h, fun kind => indicesOf_run kind is, fun _ _ _ => getElem?_ofKind_run is, ?_,
    fun n e => run_of_answer_error h, fun n => ?_⟩
  · intro index f
    rw [getElem?_functions, getElem?_ofKind_run]
    simp [Import.kind, answers]
  · have rest := keptBy_run (empty.pushAll (is.take n)).2 (is.drop n)
    have whole := pushAll_append empty (is.take n) (is.drop n)
    rw [List.take_append_drop] at whole
    rwa [← congrArg Prod.snd whole] at rest

/-- A memory under the name of a function, a table whose two names run together to the same text,
and the function once more. -/
theorem answers_told_by_sequence_mixed :
    let f (exportName : String) : FunctionImport :=
      ⟨⟨"env", exportName⟩, ⟨[.i32], none⟩, ⟨0, .reflective fun _ => .ok none⟩⟩
    let is := [.function (f "log"), .resource ⟨"env", "log"⟩ (.memory ⟨1, none⟩),
      .resource ⟨"en", "vlog"⟩ (.table ⟨0, none⟩), .function (f "put"), .function (f "log")]
    is.length < 2 ^ 32 ∧
      (empty.pushAll is).1 = [.ok 0, .error (.duplicateImport ⟨"env", "log"⟩), .ok 0, .ok 1,
        .error (.duplicateImport ⟨"env", "log"⟩)] ∧
      (empty.pushAll is).2.functions[1]? = some (f "put") := by
  intro f is
  have short : is.length < 2 ^ 32 := by decide
  obtain ⟨answers, -, -, functions, -⟩ := answers_told_by_sequence is short
  have told : (empty.pushAll is).1 = [.ok 0, .error (.duplicateImport ⟨"env", "log"⟩), .ok 0, .ok 1,
      .error (.duplicateImport ⟨"env", "log"⟩)] := answers.trans rfl
  refine ⟨short, told, (functions 1 (f "put")).2 ⟨3, rfl, ?_⟩⟩
  rw [told]
  rfl

end Embedder.ImportTable
