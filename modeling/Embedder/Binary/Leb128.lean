import Embedder.Reader

/-!
LEB128 numbers: seven bits to a byte, low bits first, the top bit of a byte set when another byte
follows. Writers give the shortest form. Readers take any form that fits in a given number of bits,
as the binary format allows.
-/

namespace Embedder.Binary

/-- An unsigned number in the fewest bytes. -/
def unsigned (n : Nat) : List UInt8 :=
  if n < 128 then [UInt8.ofNat n]
  else UInt8.ofNat (n % 128 + 128) :: unsigned (n / 128)
  termination_by n

/-- A signed number in the fewest bytes: it ends with the first byte whose bit 6 is the sign of all
that is left. -/
def signed (i : Int) : List UInt8 :=
  if -64 ≤ i ∧ i < 64 then [UInt8.ofNat (i % 128).toNat]
  else UInt8.ofNat ((i % 128).toNat + 128) :: signed (i / 128)
  termination_by i.natAbs

/-- An unsigned number below two to the given width. -/
def readUnsigned (width : Nat) : Reader UInt8 Nat
  | [] => none
  | b :: rest =>
    if b < 128 then
      if b.toNat < 1 <<< width then some (b.toNat, rest) else none
    else if 7 < width then do
      let (n, rest) ← readUnsigned (width - 7) rest
      some (b.toNat - 128 + 128 * n, rest)
    else none

/-- A signed number in two's complement of the given width. -/
def readSigned (width : Nat) : Reader UInt8 Int
  | [] => none
  | b :: rest =>
    if b < 64 then
      if b.toNat < 1 <<< (width - 1) then some (b.toNat, rest) else none
    else if b < 128 then
      if 128 ≤ b.toNat + 1 <<< (width - 1) then some (b.toNat - 128, rest) else none
    else if 7 < width then do
      let (i, rest) ← readSigned (width - 7) rest
      some (b.toNat - 128 + 128 * i, rest)
    else none

theorem consumes_readUnsigned (width : Nat) : (readUnsigned width).Consumes := by
  intro bytes
  fun_induction readUnsigned width bytes <;> grind [Option.bind_eq_some_iff]

theorem consumes_readSigned (width : Nat) : (readSigned width).Consumes := by
  intro bytes
  fun_induction readSigned width bytes <;> grind [Option.bind_eq_some_iff]

end Embedder.Binary
