/-!
# Little-endian integers and sizes

Integers as bytes with the least significant byte first, negative ones in two's complement, and the
arithmetic of byte counts, which stops at the largest count that a machine word holds.
-/

namespace WireSchema

/-- The `n` lowest bytes of a number, least significant first. -/
def leBytes : Nat → Nat → List UInt8
  | 0, _ => []
  | n + 1, v => UInt8.ofNat (v % 256) :: leBytes n (v / 256)

/-- The number whose bytes, least significant first, are given. -/
def leValue : List UInt8 → Nat
  | [] => 0
  | b :: bs => b.toNat + 256 * leValue bs

/-- The `n` bytes of an integer in two's complement, least significant first. -/
def leBytesInt (n : Nat) (v : Int) : List UInt8 :=
  leBytes n (v % Nat.pow 256 n).toNat

/-- The integer whose bytes in two's complement, least significant first, are given. -/
def leValueInt (bs : List UInt8) : Int :=
  let v := leValue bs
  if 2 * v < Nat.pow 256 bs.length then v else v - Nat.pow 256 bs.length

/-- The largest count of bytes. -/
def sizeLimit : Nat := Nat.pow 2 64 - 1

/-- The product of two counts, or the largest count. -/
def sizeMul (a b : Nat) : Nat := min (a * b) sizeLimit

/-- The sum of two counts, or the largest count. -/
def sizeAdd (a b : Nat) : Nat := min (a + b) sizeLimit

end WireSchema
