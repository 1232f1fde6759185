import Embedder.Proofs.ImportTable.Encoding

/-!
A table that holds a table import or a global has no sections, and the error is the first of these.
Imports are held in the order in which they were taken and what is held stays in place, so the error
that one push brings about stays the same after all pushes that follow.
-/

namespace Embedder.ImportTable

variable {t u : ImportTable} {e : AssembleError}

/-! ### The first that fails -/

/-- The import is the first of the list that has no place in an import section. -/
def FirstUnencodable (is : List Import) (i : Import) : Prop :=
  ∃ before after, is = before ++ i :: after ∧ (∀ j ∈ before, Encodable j) ∧ ¬ Encodable i

theorem encode_eq_error_iff_mapM :
    t.encode = .error e ↔ t.entries.toList.mapM Entry.encode = .error e := by
  rw [encode_eq, map_eq_error_iff]

theorem encode_eq_error_iff : t.encode = .error e ↔
    ∃ i, FirstUnencodable t.imports i ∧ e = .unsupportedKind i.name i.kind := by
  rw [encode_eq_error_iff_mapM, mapM_eq_error_iff]
  simp only [List.find?_eq_some_iff_append]
  constructor
  · rintro ⟨entry, ⟨-, before, after, split, passes⟩, fails⟩
    obtain ⟨-, b, encoded⟩ | ⟨refused, error⟩ := encode_entry_cases entry
    · cases encoded.symm.trans fails
    refine ⟨entry.toImport,
      ⟨before.map Entry.toImport, after.map Entry.toImport, ?_, ?_, refused⟩, ?_⟩
    · rw [imports, split, List.map_append, List.map_cons]
    · intro j hj
      obtain ⟨entry', he, rfl⟩ := List.mem_map.1 hj
      obtain ⟨encodable, -⟩ | ⟨-, error'⟩ := encode_entry_cases entry'
      · exact encodable
      · simpa [error', Except.isOk, Except.toBool] using passes entry' he
    · exact Except.error.inj (fails.symm.trans error)
  · rintro ⟨i, ⟨before, after, split, encodable, refused⟩, rfl⟩
    obtain ⟨entries, rest, hs, rfl, hr⟩ := List.map_eq_append_iff.1 split
    obtain ⟨entry, entries', rfl, rfl, -⟩ := List.map_eq_cons_iff.1 hr
    obtain ⟨encodable', -⟩ | ⟨-, error⟩ := encode_entry_cases entry
    · exact absurd encodable' refused
    refine ⟨entry, ⟨by simp [error, Except.isOk, Except.toBool], entries, entries', hs, ?_⟩, error⟩
    intro entry' he
    obtain ⟨-, b, encoded⟩ | ⟨refused', -⟩ := encode_entry_cases entry'
    · simp [encoded, Except.isOk, Except.toBool]
    · exact absurd (encodable _ (List.mem_map_of_mem he)) refused'

/-- Encoding fails just when a table or a global is held. -/
theorem exists_encode_eq_error_iff : (∃ e, t.encode = .error e) ↔
    ∃ i ∈ t.imports, i.kind = .table ∨ i.kind = .global := by
  constructor
  · rintro ⟨e, h⟩
    obtain ⟨i, ⟨before, after, split, -, refused⟩, -⟩ := encode_eq_error_iff.1 h
    refine ⟨i, by simp [split], ?_⟩
    unfold Encodable at refused
    tauto
  · rintro ⟨i, hi, kind⟩
    cases h : t.encode with
    | error e => exact ⟨e, rfl⟩
    | ok sections =>
      have encodable := encodable_of_encode h i hi
      exact absurd kind (not_or.2 encodable)

/-! ### Runs -/

/-- A table that keeps what another holds keeps its error. -/
theorem KeptBy.encode_eq_error (h : t.KeptBy u) (failed : t.encode = .error e) :
    u.encode = .error e := by
  obtain ⟨rest, entries⟩ := h.entries
  rw [encode_eq_error_iff_mapM] at failed ⊢
  rw [← entries]
  exact mapM_append_eq_error failed rest

/-- The imports of a sequence that were answered with an index. -/
def taken (is : List Import) (answers : List (Except AssembleError Nat)) : List Import :=
  (is.zip answers).filterMap fun (i, a) => if a.isOk then some i else none

theorem Consistent.imports_pushAll : ∀ {t : ImportTable} (is : List Import), t.Consistent →
    (t.pushAll is).2.imports = t.imports ++ taken is (t.pushAll is).1
  | t, [], _ => (List.append_nil t.imports).symm
  | t, i :: is, h => by
    rw [pushAll_cons]
    dsimp only
    rw [imports_pushAll is (h.pushed i)]
    cases ha : t.answer i with
    | error e =>
      rw [imports_pushed_of_answer_error ha]
      rfl
    | ok index =>
      rw [(h.pushed_of_answer_ok ha).2, List.append_assoc]
      rfl

/-- After any run of pushes: the table holds the imports that were taken, in their order, and
encoding it fails just when one of them is a table or a global. The error then is that the kind of
the first of these cannot be encoded, with its names, whatever stands before or after it; no other
error is ever given. All further pushes leave that error as it is, and so every index, of a
function, of a type or of a signature, that was given before. -/
theorem encode_fails_for_first_unencodable (is : List Import) :
    let t := (empty.pushAll is).2
    t.imports = taken is (empty.pushAll is).1 ∧
    ((∃ e, t.encode = .error e) ↔ ∃ i ∈ t.imports, i.kind = .table ∨ i.kind = .global) ∧
    (∀ e, t.encode = .error e ↔
      ∃ i, FirstUnencodable t.imports i ∧ e = .unsupportedKind i.name i.kind) ∧
    ∀ js, t.KeptBy (t.pushAll js).2 ∧
      ∀ e, t.encode = .error e → (t.pushAll js).2.encode = .error e := by
  intro t
  refine ⟨consistent_empty.imports_pushAll is, exists_encode_eq_error_iff,
    fun e => encode_eq_error_iff, fun js => ?_⟩
  have kept := keptBy_run t js
  exact ⟨kept, fun e failed => kept.encode_eq_error failed⟩

/-- A table under a name that is taken, a global, and another table after it: the global is the
error, also after more pushes. -/
theorem encode_fails_for_first_unencodable_global :
    let f (exportName : String) : Import :=
      .function ⟨⟨"env", exportName⟩, ⟨[.i32], none⟩, ⟨0, .reflective fun _ => .ok none⟩⟩
    let global : Import := .resource ⟨"js", "g"⟩ (.global .i32 false)
    let table (exportName : String) : Import := .resource ⟨"env", exportName⟩ (.table ⟨1, none⟩)
    let t := (empty.pushAll [f "log", table "log", global, table "t"]).2
    FirstUnencodable t.imports global ∧
      t.encode = .error (.unsupportedKind ⟨"js", "g"⟩ .global) ∧
      (t.pushAll [f "now", table "u"]).2.encode =
        .error (.unsupportedKind ⟨"js", "g"⟩ .global) := by
  intro f global table t
  obtain ⟨-, -, error, further⟩ :=
    encode_fails_for_first_unencodable [f "log", table "log", global, table "t"]
  have held : t.imports = [f "log", global, table "t"] := by
    simp only [t, f, global, table]
    cbv
  have first : FirstUnencodable t.imports global := by
    refine ⟨[f "log"], [table "t"], held, ?_, fun encodable => encodable.2 rfl⟩
    rintro j hj
    cases List.mem_singleton.1 hj
    exact ⟨by decide, by decide⟩
  have failed := (error _).2 ⟨global, first, rfl⟩
  exact ⟨first, failed, (further _).2 _ failed⟩

end Embedder.ImportTable
