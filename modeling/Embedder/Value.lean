import Embedder.Ieee.Format
import Embedder.ValueType

/-!
Values that cross between the host and a WebAssembly module. A value is its type and its bits, so
the payload of a NaN and the sign of a zero are kept wherever the value goes.
-/

namespace Embedder

structure Value where
  type : ValueType
  bits : BitVec type.width
  deriving DecidableEq, Repr

/-- The floating-point format of a type; that of an integer type is never asked for. -/
def ValueType.format : ValueType → Ieee.Format
  | .i32 | .f32 => Ieee.binary32
  | .i64 | .f64 => Ieee.binary64

namespace Value

def zero (t : ValueType) : Value := ⟨t, 0⟩

/-- The bits of a value of type `t`, nothing for a value of another type. -/
def as? (v : Value) (t : ValueType) : Option (BitVec t.width) :=
  if h : v.type = t then some (h ▸ v.bits) else none

@[simp] theorem as?_mk (t : ValueType) (bits : BitVec t.width) : as? ⟨t, bits⟩ t = some bits := by
  simp [as?]

/-- Equality of bits of type `t` as numbers: floats compare as floats, integers by their bits. -/
def sameNumber (t : ValueType) (a b : BitVec t.width) : Bool :=
  if t.isFloat then t.format.sameNumber a.toNat b.toNat else a == b

/-- Equality of values as numbers of one type. -/
def equals (a b : Value) : Bool :=
  match b.as? a.type with
  | some bits => sameNumber a.type a.bits bits
  | none => false

end Value

end Embedder
