/-! Reading numbers from their digits, decimal and lower-case hexadecimal. -/

namespace Embedder.Text

/-- The natural number of a word of decimal digits. -/
def decimal? (cs : List Char) : Option Nat :=
  if cs ≠ [] ∧ cs.all Char.isDigit then some (Nat.ofDigitChars 10 cs 0) else none

/-- The whole number of decimal digits after a minus sign or none. -/
def signed? : List Char → Option Int
  | '-' :: cs => (decimal? cs).map fun n => -n
  | cs => (decimal? cs).map fun n => n

/-- The value of a hexadecimal digit. -/
def hexDigit? (c : Char) : Option Nat :=
  if '0' ≤ c ∧ c ≤ '9' then some (c.toNat - '0'.toNat)
  else if 'a' ≤ c ∧ c ≤ 'f' then some (c.toNat - 'a'.toNat + 10)
  else none

/-- The number whose first digits have been read and whose others follow. -/
def hexFrom? (soFar : Nat) : List Char → Option Nat
  | [] => some soFar
  | c :: cs => do hexFrom? (16 * soFar + (← hexDigit? c)) cs

end Embedder.Text
