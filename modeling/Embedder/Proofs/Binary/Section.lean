import Embedder.Binary.Section
import Embedder.Proofs.Binary.Primitive
import Embedder.Proofs.Binary.Tables

/-!
The type section and the import section are read back. Entries of either kind are read back by
themselves; a section that fits in 32 bits of size then leaves no entry, and none of its names or
parameter lists, too long to be counted. A longer section is not read as anything else.
-/

namespace Embedder.Binary

open Reader (Reads)

/-- No entry is longer than the vector that it is in. -/
theorem length_encode_le_length_vector {encode : α → List UInt8} {xs : List α} {x : α}
    (h : x ∈ xs) : (encode x).length ≤ (vector encode xs).length := by
  have hx : (encode x).length ≤ (xs.flatMap encode).length := by
    obtain ⟨before, after, rfl⟩ := List.append_of_mem h
    rw [List.flatMap_append, List.flatMap_cons, List.length_append, List.length_append]
    omega
  rw [vector, List.length_append]
  omega

/-! ### Types -/

theorem reads_valueType (t : ValueType) : Reads readValueType (valueType t) t := by
  rw [valueType, encode_toEncoder]
  refine (Reads.next t.byte).finish ?_
  rw [lookup_valueTypes]
  rfl

/-- A function type is read back by every reader that can count its parameters and one result. -/
theorem reads_signature {countWidth : Nat} {s : Signature} (hw : 0 < countWidth)
    (h : s.params.length < 2 ^ countWidth) : Reads (readSignature countWidth) (signature s) s := by
  have result : s.results.length < 2 ^ countWidth := by
    have : s.results.length ≤ 1 := by cases hr : s.result <;> simp [Signature.results, hr]
    exact Nat.lt_of_le_of_lt this (Nat.one_lt_two_pow (by omega))
  refine (Reads.next 0x60).bind ((Reads.ofGuard rfl).bind ?_)
  refine (reads_vector h fun t _ => reads_valueType t).bind ?_
  refine (reads_vector result fun t _ => reads_valueType t).finish ?_
  obtain ⟨params, _ | t⟩ := s <;> rfl

theorem signature_ne_nil (s : Signature) : signature s ≠ [] := List.cons_ne_nil _ _

theorem length_params_le (s : Signature) : s.params.length ≤ (signature s).length := by
  have h : s.params.length < (vector valueType s.params).length :=
    length_lt_length_vector fun t => by simp [valueType, encode_toEncoder]
  rw [signature, List.length_cons, List.length_append]
  omega

/-- A type section is read back if its content fits in so many bytes. -/
theorem reads_typeSection_of_content {sec : TypeSection}
    (h : (vector signature sec.types).length < 2 ^ 32) : Reads TypeSection.read sec.bytes sec := by
  refine (reads_framed signature_ne_nil (fun s hs => ?_) h).finish rfl
  have hle : s.params.length ≤ (vector signature sec.types).length :=
    Nat.le_trans (length_params_le s) (length_encode_le_length_vector hs)
  exact reads_signature (by decide) (Nat.lt_of_le_of_lt hle h)

theorem reads_typeSection {sec : TypeSection} (h : sec.bytes.length < 2 ^ 32) :
    Reads TypeSection.read sec.bytes sec :=
  reads_typeSection_of_content (Nat.lt_of_le_of_lt length_vector_le_length_framed h)

theorem decodes_typeSection (sec : TypeSection) : Decodes TypeSection.read sec.bytes sec := by
  refine decodes_of_reads reads_typeSection_of_content (fun y h => ?_)
    (Nat.lt_of_le_of_lt length_vector_le_length_framed)
  obtain ⟨entries, he, -⟩ := Option.bind_eq_some_iff.1 h
  exact length_vector_lt_of_readFramed he

/-- Types that are added in turn follow those that are there, and are numbered on from them. -/
theorem TypeSection.addAll_eq (sec : TypeSection) (ss : List Signature) :
    sec.addAll ss = (⟨sec.types ++ ss⟩, List.range' sec.types.length ss.length) := by
  induction ss generalizing sec with
  | nil => simp [addAll]
  | cons s ss ih => simp [addAll, add, ih, List.range'_succ]

/-- A section has no more types than bytes. -/
theorem TypeSection.length_types_le (sec : TypeSection) : sec.types.length ≤ sec.bytes.length :=
  Nat.le_trans (Nat.le_of_lt (length_lt_length_vector signature_ne_nil))
    length_vector_le_length_framed

/-! ### Imports -/

theorem reads_limits (l : Limits) : Reads readLimits (limits l) l := by
  obtain ⟨min, _ | max⟩ := l
  · refine (Reads.next 0x00).bind ((reads_index min).finish ?_)
    rw [if_pos rfl]
  · refine (Reads.next 0x01).bind ((reads_index min).bind ?_)
    rw [if_neg (by decide), if_pos rfl]
    exact (reads_index max).finish rfl

theorem reads_importDescription (d : ImportDescription) :
    Reads readImportDescription (importDescription d) d := by
  cases d with
  | function i =>
    refine (Reads.next ExternalKind.function.byte).bind ?_
    rw [if_pos (by decide)]
    exact (reads_index i).finish rfl
  | memory l =>
    refine (Reads.next ExternalKind.memory.byte).bind ?_
    rw [if_neg (by decide), if_pos (by decide)]
    exact (reads_limits l).finish rfl

theorem reads_importEntry {e : ImportEntry} (hm : e.name.moduleName.utf8ByteSize < 2 ^ 32)
    (he : e.name.exportName.utf8ByteSize < 2 ^ 32) : Reads readImportEntry (importEntry e) e := by
  rw [importEntry, List.append_assoc]
  refine (reads_name hm).bind ((reads_name he).bind ?_)
  exact (reads_importDescription e.description).finish rfl

theorem importEntry_ne_nil (e : ImportEntry) : importEntry e ≠ [] := by
  simp [importEntry, name, unsigned_ne_nil]

theorem utf8ByteSize_le (s : String) : s.utf8ByteSize ≤ (name s).length := by
  have : s.toByteArray.data.toList.length = s.utf8ByteSize := rfl
  simp only [name, List.length_append]
  omega

/-- An import section is read back if its content fits in so many bytes. -/
theorem reads_importSection_of_content {sec : ImportSection}
    (h : (vector importEntry sec.entries).length < 2 ^ 32) :
    Reads ImportSection.read sec.bytes sec := by
  refine (reads_framed importEntry_ne_nil (fun e he => ?_) h).finish rfl
  have hle : (importEntry e).length < 2 ^ 32 :=
    Nat.lt_of_le_of_lt (length_encode_le_length_vector he) h
  have hm := utf8ByteSize_le e.name.moduleName
  have hx := utf8ByteSize_le e.name.exportName
  rw [importEntry, List.length_append, List.length_append] at hle
  exact reads_importEntry (by omega) (by omega)

theorem reads_importSection {sec : ImportSection} (h : sec.bytes.length < 2 ^ 32) :
    Reads ImportSection.read sec.bytes sec :=
  reads_importSection_of_content (Nat.lt_of_le_of_lt length_vector_le_length_framed h)

theorem decodes_importSection (sec : ImportSection) : Decodes ImportSection.read sec.bytes sec := by
  refine decodes_of_reads reads_importSection_of_content (fun y h => ?_)
    (Nat.lt_of_le_of_lt length_vector_le_length_framed)
  obtain ⟨entries, he, -⟩ := Option.bind_eq_some_iff.1 h
  exact length_vector_lt_of_readFramed he

/-- A section that can be read has no more entries than 32 bits can count, and one more. -/
theorem ImportSection.length_entries_lt {sec : ImportSection}
    (h : (ImportSection.read sec.bytes).isSome) : sec.entries.length + 1 < 2 ^ 32 := by
  obtain ⟨y, hy⟩ := Option.isSome_iff_exists.1 h
  obtain ⟨entries, he, -⟩ := Option.bind_eq_some_iff.1 hy
  exact Nat.lt_of_le_of_lt (length_lt_length_vector importEntry_ne_nil)
    (length_vector_lt_of_readFramed he)

end Embedder.Binary
