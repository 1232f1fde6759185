import Embedder.Proofs.ImportTable.Encoding
import Embedder.Proofs.Text.Import
import Embedder.Text.Layout

/-!
The text of a table's imports means what its two sections say. The text writes each function type
out in place and the sections number them, but a reader of the text numbers them as a table does: by
the first that is equal, or else next. So every push is a step of the reader, and a run of pushes is
the reading.
-/

namespace Embedder.ImportTable

open Binary (TypeSection ImportSection Decodes)
open Text (Layout)

variable {t : ImportTable}

/-! ### A push is a step of the reader -/

/-- A signature has the index of the first that is equal, or else the next. -/
theorem Consistent.index_intern (h : t.Consistent) {s : Signature} {k : Nat}
    (hk : (t.intern s).1 = .ok k) : k = t.signatures.toList.idxOf s := by
  obtain ⟨_, known, e⟩ | ⟨new, ⟨-, e⟩ | ⟨-, e⟩⟩ := t.intern_cases s <;> rw [e] at hk <;> cases hk
  · obtain ⟨lt, rfl⟩ := Array.getElem?_eq_some_iff.1 ((h.typeIndices s k).1 known)
    rw [← Array.getElem_toList, h.nodup_signatures.idxOf_getElem]
  · rw [List.idxOf_eq_length, Array.length_toList]
    simpa using (h.typeIndex?_eq_none_iff s).1 new

/-- What the sections of a table say, if it has them, of its imports: their types and their
entries. -/
def layout? (t : ImportTable) : Option Layout :=
  (t.entries.toList.mapM Entry.encode).toOption.map fun entries => ⟨t.usedSignatures, entries⟩

theorem Consistent.layout?_addFunction (h : t.Consistent) {f : FunctionImport} {k : Nat}
    (room : t.functionCount + 1 < indexLimit) (hk : (t.intern f.signature).1 = .ok k) :
    (t.addFunction f k).layout? =
      t.layout?.bind fun l => l.step (Import.function f).declaration := by
  rw [layout?, layout?, entries_addFunction, Array.toList_push, mapM_concat,
    usedSignatures_addFunction, h.index_intern hk, h.room room]
  -- the reader asks for the index in the types as they were, and that is what interning answers
  cases t.entries.toList.mapM Entry.encode <;> rfl

theorem layout?_addResource (t : ImportTable) (name : ImportName) (r : Resource) :
    (t.addResource name r).layout? =
      t.layout?.bind fun l => l.step (Import.resource name r).declaration := by
  have entries : (t.addResource name r).entries.toList = t.entries.toList ++ [.resource name r] :=
    Array.toList_push
  rw [layout?, layout?, entries, mapM_concat, usedSignatures_addResource]
  cases t.entries.toList.mapM Entry.encode <;> cases r <;> rfl

theorem ofDeclarations?_concat (ds : List Declaration) (d : Declaration) :
    Layout.ofDeclarations? (ds ++ [d]) = (Layout.ofDeclarations? ds).bind fun l => l.step d := by
  simp [Layout.ofDeclarations?, List.foldlM_append]

/-- What the sections say is what the declarations of the imports mean. -/
def LaidOut (t : ImportTable) : Prop :=
  Layout.ofDeclarations? (t.imports.map Import.declaration) = t.layout?

theorem LaidOut.pushed (h : t.Consistent) (hl : t.LaidOut) (i : Import) : (t.pushed i).LaidOut := by
  unfold LaidOut at hl ⊢
  obtain e | ⟨f, -, -, e⟩ | ⟨-, ⟨f, k, -, room, hk, e⟩ | ⟨name, r, -, e⟩⟩ :=
    t.pushed_cases i <;> rw [e]
  · exact hl
  · rw [imports_intern, hl, layout?, layout?, usedSignatures_intern, entries_intern]
  · rw [imports_addFunction, List.map_append, List.map_singleton, ofDeclarations?_concat, hl,
      h.layout?_addFunction room hk]
  · rw [imports_addResource, List.map_append, List.map_singleton, ofDeclarations?_concat, hl,
      layout?_addResource]

theorem laidOut_run (is : List Import) : (empty.pushAll is).2.LaidOut := by
  -- a push is laid out by the indices that it gives, so the parts of the table must agree all along
  have kept : ∀ (t : ImportTable) (i : Import), t.Consistent ∧ t.LaidOut →
      (t.pushed i).Consistent ∧ (t.pushed i).LaidOut := by
    rintro t i ⟨h, hl⟩
    exact ⟨h.pushed i, hl.pushed h i⟩
  exact (run_of_pushed kept is ⟨consistent_empty, rfl⟩).2

/-- After any run of pushes that leaves only functions and memories, the text of the imports and the
two sections of the table agree: where the text is read as the imports of a module, the entries with
their names, type indices and limits are those that the import section is decoded to, and the types
are those of the type section, in their order. Where the import section is too long to be decoded
there may be more types: those of functions that no index was left for. -/
theorem text_agrees_with_sections (is : List Import)
    (h : ∀ i ∈ (empty.pushAll is).2.imports, Encodable i) :
    let t := (empty.pushAll is).2
    ∃ types imports layout, t.encode = .ok (types, imports) ∧
      (Declaration.ofWat? (Import.watAll t.imports)).bind Layout.ofDeclarations? = some layout ∧
      Decodes ImportSection.read imports.bytes ⟨layout.entries⟩ ∧
      ((ImportSection.read imports.bytes).isSome →
        Decodes TypeSection.read types.bytes ⟨layout.types⟩) := by
  intro t
  have ht : t.Consistent := consistent_empty.run is
  have laid : Layout.ofDeclarations? (t.imports.map Import.declaration) = t.layout? :=
    laidOut_run is
  obtain ⟨entries, encoded, -⟩ := ht.encode h
  have mapped : t.entries.toList.mapM Entry.encode = .ok entries := by
    rw [encode_eq, map_eq_ok_iff] at encoded
    obtain ⟨_, mapped, same⟩ := encoded
    cases same
    exact mapped
  refine ⟨_, _, ⟨t.usedSignatures, entries⟩, encoded, ?_, Binary.decodes_importSection _,
    fun readable => ?_⟩
  · rw [Import.ofWat?_watAll, Option.bind_some, laid, layout?, mapped]
    rfl
  · rw [← ht.signatures_of_read encoded readable]
    exact Binary.decodes_typeSection _

/-- Two signatures in three functions, one of them pushed twice, and a memory between them. -/
theorem text_agrees_with_sections_mixed :
    let f (exportName : String) (s : Signature) : Import :=
      .function ⟨⟨"env", exportName⟩, s, ⟨0, .reflective fun _ => .ok none⟩⟩
    let log := f "log" ⟨[.i32], none⟩
    let t := (empty.pushAll [log, .resource ⟨"js", "mem"⟩ (.memory ⟨1, some 2⟩),
      f "now" ⟨[], some .f64⟩, log, f "\"" ⟨[.i32], none⟩]).2
    let layout : Layout := ⟨[⟨[.i32], none⟩, ⟨[], some .f64⟩],
      [⟨⟨"env", "log"⟩, .function 0⟩, ⟨⟨"js", "mem"⟩, .memory ⟨1, some 2⟩⟩,
        ⟨⟨"env", "now"⟩, .function 1⟩, ⟨⟨"env", "\""⟩, .function 0⟩]⟩
    (∀ i ∈ t.imports, Encodable i) ∧
      (Declaration.ofWat? (Import.watAll t.imports)).bind Layout.ofDeclarations? = some layout ∧
      ∃ types imports, t.encode = .ok (types, imports) ∧
        TypeSection.read types.bytes = some (⟨layout.types⟩, []) ∧
        ImportSection.read imports.bytes = some (⟨layout.entries⟩, []) := by
  intro f log t layout
  have encoded : t.encode = .ok (⟨layout.types⟩, ⟨layout.entries⟩) := by
    simp only [t, log, f, layout]
    cbv
  have encodable := encodable_of_encode encoded
  obtain ⟨_, _, ⟨types, entries⟩, encoded', text, hi, ht⟩ := text_agrees_with_sections _ encodable
  cases encoded.symm.trans encoded'
  have typeSection := (Binary.decodes_typeSection ⟨layout.types⟩).fits (by decide +kernel)
  have importSection :=
    (Binary.decodes_importSection ⟨layout.entries⟩).fits (by decide +kernel)
  have readable : (ImportSection.read (ImportSection.bytes ⟨layout.entries⟩)).isSome := by
    rw [importSection]
    rfl
  cases ((ht readable).only _ _ typeSection).1
  cases (hi.only _ _ importSection).1
  exact ⟨encodable, text, _, _, encoded, typeSection, importSection⟩

end Embedder.ImportTable
