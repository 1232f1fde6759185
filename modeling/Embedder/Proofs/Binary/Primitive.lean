import Embedder.Binary.Primitive
import Embedder.Proofs.Binary.Leb128

/-!
The parts of the binary format are read back: indices, words, vectors of whatever is read back
itself, names and sections. A vector needs a count that fits, a name or a section a size that does.
-/

namespace Embedder.Binary

open Reader (Reads)

/-! ### Indices and words -/

theorem reads_index (n : UInt32) : Reads readIndex (index n) n := by
  refine (reads_unsigned n.toNat_lt).finish ?_
  rw [UInt32.ofNat_toNat]

theorem reads_littleEndian {count n : Nat} (h : n < 256 ^ count) :
    Reads (readLittleEndian count) (littleEndian count n) n := by
  induction count generalizing n with
  | zero =>
    have hn : n = 0 := by simpa using h
    subst hn
    exact Reads.pure 0
  | succ count ih =>
    have hq : n / 256 < 256 ^ count := by
      rw [Nat.pow_succ] at h
      omega
    have hr : (UInt8.ofNat (n % 256)).toNat + 256 * (n / 256) = n := by
      rw [toNat_byte (Nat.mod_lt n (by decide))]
      omega
    refine (Reads.next (UInt8.ofNat (n % 256))).bind ((ih hq).finish ?_)
    rw [hr]

/-! ### Vectors -/

section Vector

variable {read : Reader UInt8 α} {encode : α → List UInt8} {xs : List α}

theorem reads_many (h : ∀ x ∈ xs, Reads read (encode x) x) :
    Reads (readMany read xs.length) (xs.flatMap encode) xs := by
  induction xs with
  | nil => exact Reads.pure []
  | cons x xs ih =>
    rw [List.flatMap_cons]
    refine (h x List.mem_cons_self).bind ?_
    exact (ih fun y hy => h y (List.mem_cons_of_mem x hy)).finish rfl

theorem reads_vector {countWidth : Nat} (hn : xs.length < 2 ^ countWidth)
    (h : ∀ x ∈ xs, Reads read (encode x) x) :
    Reads (readVector countWidth read) (vector encode xs) xs :=
  (reads_unsigned hn).bind (reads_many h)

/-- Elements that take a byte at least are fewer than the bytes, since their number takes some
too. -/
theorem length_lt_length_vector (h : ∀ x, encode x ≠ []) :
    xs.length < (vector encode xs).length := by
  have hx : xs.length ≤ (xs.flatMap encode).length := by
    induction xs with
    | nil => exact Nat.le_refl 0
    | cons x xs ih =>
      have := List.length_pos_iff.2 (h x)
      rw [List.flatMap_cons, List.length_append, List.length_cons]
      omega
  have number := List.length_pos_iff.2 (unsigned_ne_nil xs.length)
  rw [vector, List.length_append]
  omega

end Vector

/-! ### Names -/

theorem reads_chunk (bytes : List UInt8) : Reads (readChunk bytes.length) bytes bytes := by
  intro rest
  have h : bytes.length ≤ (bytes ++ rest).length := by simp
  rw [readChunk, if_pos h, List.take_left, List.drop_left]

theorem fromUTF8?_toByteArray (s : String) :
    String.fromUTF8? ⟨s.toByteArray.data.toList.toArray⟩ = some s := by
  have h : (⟨s.toByteArray.data.toList.toArray⟩ : ByteArray) = s.toByteArray := rfl
  rw [h, String.fromUTF8?, dif_pos]
  rfl

theorem reads_name {s : String} (h : s.utf8ByteSize < 2 ^ 32) : Reads readName (name s) s :=
  (reads_unsigned h).bind ((reads_chunk _).finish (by rw [fromUTF8?_toByteArray]; rfl))

/-! ### Sections -/

/-- The bytes are read as `x` or not at all, and are read if 32 bits can tell their number. -/
structure Decodes (read : Reader UInt8 α) (bytes : List UInt8) (x : α) : Prop where
  /-- Nothing else is read, and no byte is left over. -/
  only : ∀ y rest, read bytes = some (y, rest) → y = x ∧ rest = []
  /-- Up to the size that the format can tell, all is read. -/
  fits : bytes.length < 2 ^ 32 → read bytes = some (x, [])

/-- What is read back where a condition holds is decoded, if nothing is read where it does not. -/
theorem decodes_of_reads {read : Reader UInt8 α} {bytes : List UInt8} {x : α} {p : Prop}
    (reads : p → Reads read bytes x) (decoded : ∀ y, read bytes = some y → p)
    (fits : bytes.length < 2 ^ 32 → p) : Decodes read bytes x := by
  have back (hp : p) : read bytes = some (x, []) := by simpa using reads hp []
  constructor
  · intro y rest h
    cases h.symm.trans (back (decoded _ h))
    exact ⟨rfl, rfl⟩
  · exact fun hb => back (fits hb)

section Framed

variable {read : Reader UInt8 α} {encode : α → List UInt8} {id : UInt8} {xs : List α}

/-- A section is longer than what it holds. -/
theorem length_vector_le_length_framed :
    (vector encode xs).length ≤ (framed id encode xs).length := by
  rw [framed, List.length_cons, List.length_append]
  omega

/-- A section whose content fits in so many bytes is read back whole. -/
theorem reads_framed (hne : ∀ x, encode x ≠ []) (h : ∀ x ∈ xs, Reads read (encode x) x)
    (hs : (vector encode xs).length < 2 ^ 32) :
    Reads (readFramed id read) (framed id encode xs) xs := by
  have hv := reads_vector (Nat.lt_trans (length_lt_length_vector hne) hs) h []
  rw [List.append_nil] at hv
  refine (Reads.next id).bind ((Reads.ofGuard rfl).bind ((reads_unsigned hs).bind ?_))
  refine (reads_chunk _).finish ?_
  rw [hv]

/-- A section with more content is not read at all. -/
theorem length_vector_lt_of_readFramed {r : List α × List UInt8}
    (h : readFramed id read (framed id encode xs) = some r) :
    (vector encode xs).length < 2 ^ 32 := by
  have first : Reader.next (framed id encode xs) =
    some (id, unsigned (vector encode xs).length ++ vector encode xs) := rfl
  have guarded (bytes : List UInt8) :
      (guard (id = id) : Reader UInt8 Unit) bytes = some ((), bytes) := Reads.ofGuard rfl bytes
  rw [readFramed, Reader.bind_of_read first, Reader.bind_of_read (guarded _)] at h
  obtain ⟨⟨size, content⟩, hs, -⟩ := Option.bind_eq_some_iff.1 h
  exact lt_of_readUnsigned hs

end Framed

end Embedder.Binary
