import Embedder.Proofs.ImportTable.Encoding

/-!
Types that a module adds to the type section of its imports. A table shares types and a section does
not, but both number by position: what is added is numbered on from the signatures of the table, and
no index that was given before comes to mean another type.
-/

namespace Embedder

/-- More types at the end take no index away. -/
theorem Binary.ImportEntry.Declares.append {types : List Signature} {e : Binary.ImportEntry}
    {i : Import} (h : e.Declares types i) (more : List Signature) :
    e.Declares (types ++ more) i := by
  cases i with
  | function f =>
    obtain ⟨name, j, hj, hs⟩ := h
    obtain ⟨lt, -⟩ := List.getElem?_eq_some_iff.1 hs
    exact ⟨name, j, hj, by rw [List.getElem?_append_left lt, hs]⟩
  | resource name r => cases r <;> exact h

namespace ImportTable

open Binary (TypeSection ImportSection ImportEntry Decodes)

variable {types : TypeSection} {imports : ImportSection}

/-- For every table that a run of pushes leaves and that is encoded, and all types that are then
added to its type section in turn: their indices go on from the number of signatures of the table,
no two of which are equal, one after the other, also where a type is there already. These are the
signatures of the functions, unless there are too many for the import section to be read. The type
section is read back as the signatures of the table and after them what was added. So each index of
an added type, like each index of the entries that are imported, is still that of the type it was
given for. As long as the section fits in 32 bits of size, so do the indices. -/
theorem added_types_keep_indices (is : List Import) (extras : List Signature)
    (h : (empty.pushAll is).2.encode = .ok (types, imports)) :
    let t := (empty.pushAll is).2
    let extended := (types.addAll extras).1
    let indices := (types.addAll extras).2
    let all := t.signatures.toList ++ extras
    indices = List.range' t.signatures.size extras.length ∧ t.signatures.toList.Nodup ∧
    ((ImportSection.read imports.bytes).isSome → t.signatures.toList = t.usedSignatures) ∧
    Decodes TypeSection.read extended.bytes ⟨all⟩ ∧
      Decodes ImportSection.read imports.bytes imports ∧
    (∀ (k : Nat) (s : Signature), extras[k]? = some s →
      ∃ i, indices[k]? = some i ∧ all[i]? = some s) ∧
    List.Forall₂ (ImportEntry.Declares all) imports.entries t.imports ∧
    (extended.bytes.length < 2 ^ 32 → ∀ i ∈ indices, i < 2 ^ 32) := by
  intro t extended indices all
  have ht : t.Consistent := consistent_empty.run is
  obtain ⟨held, declared⟩ := ht.declares_of_encode h
  have indices_eq : indices = List.range' t.signatures.size extras.length := by
    rw [← Array.length_toList, ← held]
    exact congrArg Prod.snd (types.addAll_eq extras)
  have extended_eq : extended = ⟨all⟩ := by
    rw [show all = types.types ++ extras from congrArg (· ++ extras) held.symm]
    exact congrArg Prod.fst (types.addAll_eq extras)
  refine ⟨indices_eq, ht.nodup_signatures, ht.signatures_of_read h,
    extended_eq ▸ Binary.decodes_typeSection extended, Binary.decodes_importSection imports,
    ?_, ?_, ?_⟩
  · intro k s hs
    obtain ⟨lt, -⟩ := List.getElem?_eq_some_iff.1 hs
    refine ⟨t.signatures.toList.length + k, ?_, ?_⟩
    · rw [indices_eq, ← Array.length_toList, List.getElem?_range' lt, Nat.one_mul]
    · rw [List.getElem?_append_right (Nat.le_add_right _ _), Nat.add_sub_cancel_left, hs]
  · rw [held] at declared
    exact declared.imp fun _ _ d => d.append extras
  · intro fits i hi
    have length := extended.length_types_le
    rw [extended_eq, List.length_append, Array.length_toList] at length
    rw [indices_eq, List.mem_range'_1] at hi
    rw [extended_eq] at fits
    omega

/-- Two signatures in three functions, and then one of them again, a new one, and that again. -/
theorem added_types_keep_indices_again :
    let f (exportName : String) (s : Signature) : Import :=
      .function ⟨⟨"env", exportName⟩, s, ⟨0, .reflective fun _ => .ok none⟩⟩
    let log : Signature := ⟨[.i32], none⟩
    let now : Signature := ⟨[], some .f64⟩
    let new : Signature := ⟨[.i64, .i64], some .i32⟩
    ∃ types imports,
      (empty.pushAll [f "log" log, f "put" log, f "now" now]).2.encode = .ok (types, imports) ∧
      (types.addAll [log, new, new]).2 = [2, 3, 4] ∧
      TypeSection.read (types.addAll [log, new, new]).1.bytes =
        some (⟨[log, now, log, new, new]⟩, []) := by
  intro f log now new
  have encoded : (empty.pushAll [f "log" log, f "put" log, f "now" now]).2.encode =
      .ok (⟨[log, now]⟩, ⟨[⟨⟨"env", "log"⟩, .function 0⟩, ⟨⟨"env", "put"⟩, .function 0⟩,
        ⟨⟨"env", "now"⟩, .function 1⟩]⟩) := by
    simp only [f, log, now]
    cbv
  have held :
      (empty.pushAll [f "log" log, f "put" log, f "now" now]).2.signatures.toList = [log, now] := by
    simp only [f, log, now]
    cbv
  obtain ⟨indices, -, -, decodes, -⟩ := added_types_keep_indices _ [log, new, new] encoded
  rw [← Array.length_toList, held] at indices
  rw [held] at decodes
  exact ⟨_, _, encoded, indices, decodes.fits (by simp only [log, now, new]; cbv)⟩

end ImportTable

end Embedder
