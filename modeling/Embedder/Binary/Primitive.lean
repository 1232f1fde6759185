import Embedder.Binary.Leb128
import Embedder.ValueType

/-!
What the binary format is built of: 32-bit indices, fixed-width words, value types, vectors, names
and sections. Beside each writer stands its reader; value types are written by the encoder.
-/

namespace Embedder.Binary

/-! ### Indices and words -/

def index (n : UInt32) : List UInt8 := unsigned n.toNat

def readIndex : Reader UInt8 UInt32 := do
  return UInt32.ofNat (← readUnsigned 32)

/-- The low bytes of a number, lowest first. -/
def littleEndian : (count : Nat) → Nat → List UInt8
  | 0, _ => []
  | count + 1, n => UInt8.ofNat (n % 256) :: littleEndian count (n / 256)

def readLittleEndian : (count : Nat) → Reader UInt8 Nat
  | 0 => pure 0
  | count + 1 => do
    let b ← Reader.next
    let n ← readLittleEndian count
    return b.toNat + 256 * n

/-! ### Value types -/

/-- The value type that each byte means, by the grammar of the format. -/
def valueTypes : List (UInt8 × ValueType) :=
  [(0x7F, .i32), (0x7E, .i64), (0x7D, .f32), (0x7C, .f64)]

def readValueType : Reader UInt8 ValueType := do
  Reader.ofOption (valueTypes.lookup (← Reader.next))

/-! ### Vectors -/

/-- The elements after their number. -/
def vector (encode : α → List UInt8) (xs : List α) : List UInt8 :=
  unsigned xs.length ++ xs.flatMap encode

/-- As many elements as the number says. -/
def readMany (read : Reader UInt8 α) : Nat → Reader UInt8 (List α)
  | 0 => pure []
  | count + 1 => do
    let x ← read
    let xs ← readMany read count
    return x :: xs

/-- A vector whose number of elements fits in so many bits; the binary format gives it 32. -/
def readVector (countWidth : Nat) (read : Reader UInt8 α) : Reader UInt8 (List α) := do
  readMany read (← readUnsigned countWidth)

/-! ### Names -/

/-- A name is its length in bytes and its bytes in UTF-8. -/
def name (s : String) : List UInt8 :=
  let bytes := s.toByteArray.data.toList
  unsigned bytes.length ++ bytes

/-- The given number of bytes, all of them. -/
def readChunk (size : Nat) : Reader UInt8 (List UInt8) := fun bytes =>
  if size ≤ bytes.length then some (bytes.take size, bytes.drop size) else none

/-- Refuses bytes that are not UTF-8. -/
def readName : Reader UInt8 String := do
  let bytes ← readChunk (← readUnsigned 32)
  Reader.ofOption (String.fromUTF8? ⟨bytes.toArray⟩)

/-! ### Sections -/

/-- A section: its number, the size of what follows in bytes, and a vector of its entries. -/
def framed (id : UInt8) (encode : α → List UInt8) (entries : List α) : List UInt8 :=
  let content := vector encode entries
  id :: (unsigned content.length ++ content)

/-- The entries of a section: its size and count are exact, and no byte of it is left over. -/
def readFramed (id : UInt8) (read : Reader UInt8 α) : Reader UInt8 (List α) := do
  let b ← Reader.next
  guard (b = id)
  let content ← readChunk (← readUnsigned 32)
  match readVector 32 read content with
  | some (entries, []) => return entries
  | _ => failure

/-! ### Readers leave no more than they found -/

theorem consumes_readIndex : readIndex.Consumes :=
  (consumes_readUnsigned 32).bind fun _ => .pure _

theorem consumes_readLittleEndian (count : Nat) : (readLittleEndian count).Consumes := by
  induction count with
  | zero => exact .pure 0
  | succ count ih => exact Reader.shrinks_next.consumes.bind fun _ => ih.bind fun _ => .pure _

theorem consumes_readMany {read : Reader UInt8 α} (h : read.Consumes) (count : Nat) :
    (readMany read count).Consumes := by
  induction count with
  | zero => exact .pure []
  | succ count ih => exact h.bind fun _ => ih.bind fun _ => .pure _

theorem consumes_readVector (countWidth : Nat) {read : Reader UInt8 α} (h : read.Consumes) :
    (readVector countWidth read).Consumes :=
  (consumes_readUnsigned countWidth).bind fun count => consumes_readMany h count

end Embedder.Binary
