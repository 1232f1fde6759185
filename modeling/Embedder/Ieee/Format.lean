/-!
Binary floating-point formats, on bit patterns. A pattern is a natural number: the sign on top, then
the exponent, then the fraction. Patterns without a sign stand in the order of the numbers they are
for, with infinity above all of these and the NaNs above infinity.
-/

namespace Embedder.Ieee

structure Format where
  /-- Number of bits in the fraction. -/
  fractionBits : Nat
  /-- Number of bits in the exponent. -/
  exponentBits : Nat
  deriving DecidableEq, Repr

def binary32 : Format := ⟨23, 8⟩

def binary64 : Format := ⟨52, 11⟩

namespace Format

/-- What the sign bit counts for. -/
def signWeight (f : Format) : Nat := 1 <<< (f.fractionBits + f.exponentBits)

/-- One more than the largest fraction, and what the leading bit of a normal number counts for,
which its pattern leaves out. -/
def leadingBit (f : Format) : Nat := 1 <<< f.fractionBits

/-- The pattern of infinity: an exponent of all ones over an empty fraction. -/
def infinity (f : Format) : Nat := (1 <<< f.exponentBits - 1) <<< f.fractionBits

/-- The payload of a canonical NaN: the top bit of the fraction. -/
def canonicalPayload (f : Format) : Nat := 1 <<< (f.fractionBits - 1)

/-- Every finite number of the format is a multiple of `2 ^ -scale`, and the least positive one is
that itself. -/
def scale (f : Format) : Nat := 1 <<< (f.exponentBits - 1) + f.fractionBits - 2

def isNegative (f : Format) (bits : Nat) : Bool := decide (f.signWeight ≤ bits)

/-- The pattern without its sign. -/
def magnitude (f : Format) (bits : Nat) : Nat := bits % f.signWeight

def isNan (f : Format) (bits : Nat) : Bool := decide (f.infinity < f.magnitude bits)

/-- Equality of numbers: a NaN differs from everything, itself included, and both zeros are
equal. -/
def sameNumber (f : Format) (a b : Nat) : Bool :=
  !f.isNan a && !f.isNan b && (a == b || f.magnitude a == 0 && f.magnitude b == 0)

/-- The number of a finite pattern without sign, counted in units of `2 ^ -scale`. -/
def units (f : Format) (pattern : Nat) : Nat :=
  let exponent := pattern >>> f.fractionBits
  let fraction := pattern % f.leadingBit
  if exponent = 0 then fraction else (f.leadingBit + fraction) <<< (exponent - 1)

/-- The last pattern whose number is at most so many units. -/
def floor (f : Format) (units : Nat) : Nat :=
  let shift := units.log2 - f.fractionBits
  shift <<< f.fractionBits + units >>> shift

end Format

end Embedder.Ieee
