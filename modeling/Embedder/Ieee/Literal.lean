import Embedder.Ieee.Shortest

/-!
Float constants as text: a sign, then a decimal, `inf`, `nan` for a canonical NaN, or `nan:0x` with
the payload in hexadecimal for any other. The sign of a zero and of a NaN is written too. Reading
rounds a decimal to the nearest number of the format, halfway to the even pattern.
-/

namespace Embedder.Ieee.Format

/-- The text of a pattern without its sign. -/
def magnitudeChars (f : Format) (pattern : Nat) : List Char :=
  if pattern < f.infinity then (f.shortest pattern).chars Decimal.constants
  else if pattern = f.infinity then "inf".toList
  else if pattern = f.infinity + f.canonicalPayload then "nan".toList
  else "nan:0x".toList ++ Nat.toDigits 16 (pattern - f.infinity)

/-- The text of a pattern. -/
def literal (f : Format) (bits : Nat) : List Char :=
  (if f.isNegative bits then ['-'] else []) ++ f.magnitudeChars (f.magnitude bits)

/-! ### Reading -/

/-- The pattern of the number nearest to a decimal, infinity above the largest. -/
def nearest (f : Format) (d : Decimal) : Nat :=
  let num := d.num <<< f.scale
  let below := f.floor (num / d.den)
  let middle := (f.units below + f.units (below + 1)) * d.den
  let up := middle < 2 * num ∨ middle = 2 * num ∧ below % 2 = 1
  min (if up then below + 1 else below) f.infinity

/-- The pattern without a sign that a text is for. A payload must be one of a NaN. -/
def ofMagnitude? (f : Format) (cs : List Char) : Option Nat :=
  if cs = "inf".toList then some f.infinity
  else if cs = "nan".toList then some (f.infinity + f.canonicalPayload)
  else if cs.take 6 = "nan:0x".toList then do
    let payload ← Text.hexFrom? 0 (cs.drop 6)
    if 0 < payload ∧ payload < f.leadingBit then some (f.infinity + payload) else none
  else (Decimal.ofChars? cs).map f.nearest

/-- The pattern that a text is for. -/
def ofLiteral? (f : Format) : List Char → Option Nat
  | '-' :: cs => (f.ofMagnitude? cs).map (f.signWeight + ·)
  | cs => f.ofMagnitude? cs

end Embedder.Ieee.Format
