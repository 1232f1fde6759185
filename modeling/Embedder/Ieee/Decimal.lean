import Embedder.Text.Digits

/-!
Decimal numbers, and how a float constant writes one: positionally with at least one place after the
point while the leading digit is neither too small nor too large, and otherwise with one digit
before the point and an exponent. Reading takes any digits with or without a point and an exponent.
-/

namespace Embedder.Ieee

/-- The number `digits * 10 ^ exponent`. -/
structure Decimal where
  digits : Nat
  exponent : Int
  deriving DecidableEq, Repr

namespace Decimal

/-- A power of ten, one where the exponent is negative. -/
def ten (exponent : Int) : Nat := Nat.pow 10 exponent.toNat

/-- The number is `num / den`. -/
def num (d : Decimal) : Nat := d.digits * ten d.exponent

def den (d : Decimal) : Nat := ten (-d.exponent)

/-- The same number, with the zeros at the end of its digits moved to the exponent. -/
def strip (d : Decimal) : Decimal :=
  if 0 < d.digits ∧ d.digits % 10 = 0 then strip ⟨d.digits / 10, d.exponent + 1⟩ else d
  termination_by d.digits
  decreasing_by omega

/-! ### Layout -/

/-- The exponents of the leading digit between which a number is written positionally, and the mark
of an exponent. -/
structure Layout where
  plainFrom : Int
  plainBelow : Int
  mark : Char

/-- Float constants are positional from `0.0001` to below `1e16`. -/
def constants : Layout := ⟨-4, 16, 'e'⟩

/-- The digits after a point, if there are any. -/
def fractional : List Char → List Char
  | [] => []
  | digits => '.' :: digits

def chars (layout : Layout) (d : Decimal) : List Char :=
  let digits := Nat.toDigits 10 d.digits
  let lead := d.exponent + digits.length - 1
  if layout.plainFrom ≤ lead ∧ lead < layout.plainBelow then
    if 0 ≤ d.exponent then
      digits ++ List.replicate d.exponent.toNat '0' ++ ['.', '0']
    else if 0 ≤ lead then
      digits.take (lead + 1).toNat ++ '.' :: digits.drop (lead + 1).toNat
    else
      '0' :: '.' :: (List.replicate (-lead - 1).toNat '0' ++ digits)
  else
    digits.take 1 ++ fractional (digits.drop 1) ++ layout.mark :: (toString lead).toList

/-! ### Reading -/

/-- What follows a point, and the places after it; without a point, everything and no places. -/
def splitFraction : List Char → List Char × List Char
  | '.' :: cs => cs.span Char.isDigit
  | cs => ([], cs)

/-- The exponent after its mark, zero where the text ends. -/
def exponent? : List Char → Option Int
  | [] => some 0
  | 'e' :: cs => Text.signed? cs
  | _ => none

/-- The decimal that a text is. -/
def ofChars? (cs : List Char) : Option Decimal := do
  let (whole, rest) := cs.span Char.isDigit
  let (places, rest) := splitFraction rest
  let digits ← Text.decimal? (whole ++ places)
  let exponent ← exponent? rest
  some ⟨digits, exponent - places.length⟩

end Decimal

end Embedder.Ieee
