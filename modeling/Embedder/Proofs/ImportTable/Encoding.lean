import Embedder.Proofs.Binary.Section
import Embedder.Proofs.Except
import Embedder.Proofs.ImportTable.Invariant

/-!
The two sections of an import table say what the table says. Encoding takes every entry to what a
section of imports can say of it, where a function becomes an index of its type; the invariant of
the table makes that index a place in the type section and the type there the function's own.
-/

namespace Embedder

/-- The entry of an import section says of the import what a module needs, given the types that its
index points into. -/
def Binary.ImportEntry.Declares (types : List Signature) (e : Binary.ImportEntry) : Import → Prop
  | .function f => e.name = f.name ∧
    ∃ i : UInt32, e.description = .function i ∧ types[i.toNat]? = some f.signature
  | .resource name (.memory limits) => e = ⟨name, .memory limits⟩
  | .resource _ _ => False

namespace ImportTable

/-- Only functions and memories have a place in an import section. -/
def Encodable (i : Import) : Prop := i.kind ≠ .table ∧ i.kind ≠ .global

variable {t : ImportTable}

/-- Just the tables and the globals cannot be encoded, and each gives its own error. -/
theorem encode_entry_cases (entry : Entry) :
    Encodable entry.toImport ∧ (∃ b, entry.encode = .ok b) ∨
    ¬ Encodable entry.toImport ∧
      entry.encode = .error (.unsupportedKind entry.toImport.name entry.toImport.kind) := by
  cases entry with
  | function f i => exact .inl ⟨⟨nofun, nofun⟩, _, rfl⟩
  | resource name r =>
    cases r with
    | memory limits => exact .inl ⟨⟨nofun, nofun⟩, _, rfl⟩
    | table limits => exact .inr ⟨fun h => h.1 rfl, rfl⟩
    | global type mutable => exact .inr ⟨fun h => h.2 rfl, rfl⟩

theorem Consistent.encode_entry (h : t.Consistent) {e : Entry} (he : e ∈ t.entries)
    (hk : Encodable e.toImport) :
    ∃ b, e.encode = .ok b ∧ b.Declares t.signatures.toList e.toImport := by
  cases e with
  | function f i =>
    have hs := h.typeIndex f i he
    obtain ⟨hi, -⟩ := Array.getElem?_eq_some_iff.1 hs
    refine ⟨_, rfl, rfl, UInt32.ofNat i, rfl, ?_⟩
    rw [UInt32.toNat_ofNat_of_lt' (Nat.lt_of_lt_of_le hi h.size), Array.getElem?_toList, hs]
  | resource name r =>
    cases r with
    | memory limits => exact ⟨_, rfl, rfl⟩
    | table => exact absurd rfl hk.1
    | global => exact absurd rfl hk.2

/-- The types are the signatures of the table, whatever the entries are. -/
theorem encode_eq (t : ImportTable) : t.encode =
    (t.entries.toList.mapM Entry.encode).map fun entries => (⟨t.signatures.toList⟩, ⟨entries⟩) := by
  rw [encode]
  cases t.entries.toList.mapM Entry.encode <;> rfl

/-- A table of functions and memories has its two sections. -/
theorem Consistent.encode (h : t.Consistent) (hk : ∀ i ∈ t.imports, Encodable i) :
    ∃ entries, t.encode = .ok (⟨t.signatures.toList⟩, ⟨entries⟩) ∧
      List.Forall₂ (Binary.ImportEntry.Declares t.signatures.toList) entries t.imports := by
  obtain ⟨entries, he, hd⟩ := exists_mapM_ok (f := Entry.encode)
    fun e (he : e ∈ t.entries.toList) =>
      h.encode_entry (Array.mem_toList_iff.1 he) (hk _ (List.mem_map_of_mem he))
  exact ⟨entries, by rw [encode_eq, he]; rfl, List.forall₂_map_right_iff.2 hd⟩

/-- Nothing but functions and memories is encoded. -/
theorem encodable_of_encode {types : Binary.TypeSection} {imports : Binary.ImportSection}
    (h : t.encode = .ok (types, imports)) : ∀ i ∈ t.imports, Encodable i := by
  rw [encode_eq, map_eq_ok_iff] at h
  obtain ⟨entries, he, -⟩ := h
  intro i hi
  obtain ⟨e, hm, rfl⟩ := List.mem_map.1 hi
  obtain ⟨b, hb⟩ := exists_of_mapM_ok he e hm
  obtain ⟨encodable, -⟩ | ⟨-, error⟩ := encode_entry_cases e
  · exact encodable
  · cases error.symm.trans hb

/-- The sections of a table have its signatures for types, and an entry for each import. -/
theorem Consistent.declares_of_encode (ht : t.Consistent) {types : Binary.TypeSection}
    {imports : Binary.ImportSection} (h : t.encode = .ok (types, imports)) :
    types.types = t.signatures.toList ∧
      List.Forall₂ (Binary.ImportEntry.Declares types.types) imports.entries t.imports := by
  obtain ⟨entries, he, hd⟩ := ht.encode (encodable_of_encode h)
  cases h.symm.trans he
  exact ⟨rfl, hd⟩

/-- A table has no signatures but those of its functions if its import section can be read at all:
so few functions leave an index to the next. -/
theorem Consistent.signatures_of_read (ht : t.Consistent) {types : Binary.TypeSection}
    {imports : Binary.ImportSection} (h : t.encode = .ok (types, imports))
    (readable : (Binary.ImportSection.read imports.bytes).isSome) :
    t.signatures.toList = t.usedSignatures := by
  have few := Binary.ImportSection.length_entries_lt readable
  have entries := (ht.declares_of_encode h).2.length_eq
  have functions : t.countOf .function ≤ t.imports.length := List.countP_le_length
  refine ht.room ?_
  rw [ht.functionCount_eq]
  exact Nat.lt_of_le_of_lt (Nat.succ_le_succ (entries ▸ functions)) few

/-- After any run of pushes that leaves only functions and memories, the table has its two sections.
Sections of up to 32 bits of size are read back exactly: the types are the signatures in their
order, and the entries are the imports in theirs, with their names, their limits and an index at
which the types have the function's own signature. -/
theorem sections_read_back (is : List Import)
    (h : ∀ i ∈ (empty.pushAll is).2.imports, Encodable i) :
    let t := (empty.pushAll is).2
    ∃ types imports, t.encode = .ok (types, imports) ∧
      (types.bytes.length < 2 ^ 32 → ∀ rest,
        Binary.TypeSection.read (types.bytes ++ rest) = some (⟨t.signatures.toList⟩, rest)) ∧
      (imports.bytes.length < 2 ^ 32 → ∃ entries,
        (∀ rest, Binary.ImportSection.read (imports.bytes ++ rest) = some (⟨entries⟩, rest)) ∧
        List.Forall₂ (Binary.ImportEntry.Declares t.signatures.toList) entries t.imports) := by
  intro t
  obtain ⟨entries, he, hd⟩ := (consistent_empty.run is).encode h
  refine ⟨_, _, he, fun hs => Binary.reads_typeSection hs, fun hs => ?_⟩
  exact ⟨entries, Binary.reads_importSection hs, hd⟩

/-- Two functions of one signature on both sides of a memory, and a name that is taken twice. -/
theorem sections_read_back_mixed :
    let f (exportName : String) : Import :=
      .function ⟨⟨"env", exportName⟩, ⟨[.i32], none⟩, ⟨0, .reflective fun _ => .ok none⟩⟩
    let t := (empty.pushAll
      [f "é", .resource ⟨"js", "mem"⟩ (.memory ⟨1, some 200⟩), f "put", f "é"]).2
    (∀ i ∈ t.imports, Encodable i) ∧ ∃ types imports, t.encode = .ok (types, imports) ∧
      Binary.TypeSection.read types.bytes = some (⟨t.signatures.toList⟩, []) ∧
      ∃ entries, Binary.ImportSection.read imports.bytes = some (⟨entries⟩, []) ∧
        List.Forall₂ (Binary.ImportEntry.Declares t.signatures.toList) entries t.imports := by
  intro f t
  have hk : ∀ i ∈ t.imports, Encodable i := by
    intro i hi
    rcases mem_of_mem_imports_run hi with hi | hi
    · cases hi
    · simp only [List.mem_cons, List.not_mem_nil, or_false] at hi
      rcases hi with rfl | rfl | rfl | rfl <;> exact ⟨by decide, by decide⟩
  refine ⟨hk, ?_⟩
  obtain ⟨types, imports, he, ht, hi⟩ := sections_read_back _ hk
  have hc : t.encode = .ok (⟨[⟨[.i32], none⟩]⟩, ⟨[⟨⟨"env", "é"⟩, .function 0⟩,
      ⟨⟨"js", "mem"⟩, .memory ⟨1, some 200⟩⟩, ⟨⟨"env", "put"⟩, .function 0⟩]⟩) := by
    simp only [t, f]
    cbv
  cases hc.symm.trans he
  obtain ⟨entries, hr, hd⟩ := hi (by decide +kernel)
  refine ⟨_, _, he, by simpa using ht (by decide +kernel) [], entries, by simpa using hr [], hd⟩

end ImportTable

end Embedder
