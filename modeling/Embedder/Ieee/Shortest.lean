import Embedder.Ieee.Decimal
import Embedder.Ieee.Format

/-!
The shortest decimal that reads back to a given float, and of several the nearest to it. A decimal
reads back when it lies between the midpoints to the two neighbours of the float; a midpoint itself
reads back to the neighbour whose pattern is even. The search goes over the decimal grids from the
coarsest that separates the float from zero to finer ones, and tries on each the two points around
the float.
-/

namespace Embedder.Ieee

namespace Format

/-- True of the decimals that round to a finite pattern other than zero. -/
def readsBack (f : Format) (pattern : Nat) (d : Decimal) : Bool :=
  let low := (f.units (pattern - 1) + f.units pattern) * d.den
  let high := (f.units pattern + f.units (pattern + 1)) * d.den
  let twice := 2 * d.num <<< f.scale
  if pattern % 2 = 0 then decide (low ≤ twice ∧ twice ≤ high)
  else decide (low < twice ∧ twice < high)

/-- Of the two points around a pattern's number on the grid of `10 ^ exponent`, the one that reads
back, and the nearer if both do; halfway, the one above. -/
def onGrid? (f : Format) (pattern : Nat) (exponent : Int) : Option Decimal :=
  let num := f.units pattern * Decimal.ten (-exponent)
  let den := Decimal.ten exponent <<< f.scale
  let below : Decimal := ⟨num / den, exponent⟩
  let above : Decimal := ⟨num / den + 1, exponent⟩
  match f.readsBack pattern below, f.readsBack pattern above with
  | true, true => some (if 2 * num < (2 * (num / den) + 1) * den then below else above)
  | true, false => some below
  | false, true => some above
  | false, false => none

/-- The first grid with a hit among those of `10 ^ (n - scale)` and finer. On the finest stands
every number of the format. -/
def search (f : Format) (pattern : Nat) : Nat → Decimal
  | 0 => ⟨f.units pattern * Nat.pow 5 f.scale, -f.scale⟩
  | n + 1 => (f.onGrid? pattern (n + 1 - f.scale)).getD (f.search pattern n)

/-- The exponent of the leading digit of a pattern's number. -/
def leadingExponent (f : Format) (pattern : Nat) : Int :=
  let units := f.units pattern
  let one := 1 <<< f.scale
  if one ≤ units then (Nat.toDigits 10 (units / one)).length - 1
  else -(Nat.toDigits 10 ((one - 1) / units)).length

/-- The decimal that a finite pattern without sign is written as. -/
def shortest (f : Format) (pattern : Nat) : Decimal :=
  if pattern = 0 then ⟨0, 0⟩
  else (f.search pattern (f.leadingExponent pattern + f.scale).toNat).strip

end Format

end Embedder.Ieee
