/-!
# Binary floating point

The two floating-point formats of the wire, held as their bits. A format is read as an integer
mantissa times a power of two, and a mantissa times a power of two is rounded back into a format;
widening and narrowing are these two steps one after the other, in exact integer arithmetic.
-/

namespace WireSchema.Number

/-- The layout of a binary floating-point format: a sign bit, an exponent field and a fraction. -/
structure BinaryFormat where
  /-- Bits of the exponent field. -/
  exponentBits : Nat
  /-- Bits of the fraction. -/
  fractionBits : Nat
deriving DecidableEq

/-- The format with 32 bits. -/
def binary32 : BinaryFormat := ⟨8, 23⟩

/-- The format with 64 bits. -/
def binary64 : BinaryFormat := ⟨11, 52⟩

namespace BinaryFormat

variable (f : BinaryFormat)

/-- The exponent field of infinities and NaNs. -/
def topExponent : Nat := Nat.pow 2 f.exponentBits - 1

/-- The exponent of the last fraction bit of the smallest numbers. -/
def minExponent : Int := 2 - Nat.pow 2 (f.exponentBits - 1) - f.fractionBits

/-- The sign bit as a number. -/
def signBit : Nat := Nat.pow 2 (f.exponentBits + f.fractionBits)

/-- The bits of positive infinity. -/
def infinityBits : Nat := f.topExponent * Nat.pow 2 f.fractionBits

/-- The first fraction bit, which marks a NaN that may take part in arithmetic. -/
def quietBit : Nat := Nat.pow 2 (f.fractionBits - 1)

end BinaryFormat

/-- What the bits of a format stand for. -/
inductive Unpacked
  /-- No number; the fraction field carries a payload. -/
  | nan (negative : Bool) (payload : Nat)
  /-- An infinity. -/
  | infinite (negative : Bool)
  /-- The number `± mantissa · 2 ^ exponent`. -/
  | finite (negative : Bool) (mantissa : Nat) (exponent : Int)
deriving DecidableEq

/-- Reads the bits of a format. -/
def BinaryFormat.unpack (f : BinaryFormat) (bits : Nat) : Unpacked :=
  let negative := bits / f.signBit % 2 == 1
  let exponent := bits / Nat.pow 2 f.fractionBits % Nat.pow 2 f.exponentBits
  let fraction := bits % Nat.pow 2 f.fractionBits
  if exponent == f.topExponent then
    if fraction == 0 then .infinite negative else .nan negative fraction
  else if exponent == 0 then .finite negative fraction f.minExponent
  else .finite negative (Nat.pow 2 f.fractionBits + fraction) (f.minExponent + (exponent - 1 : Nat))

/-- The quotient of two numbers rounded to the nearest integer, a half to the even neighbour. -/
def divNearestEven (n d : Nat) : Nat :=
  let q := n / d
  let r := n % d
  if 2 * r < d then q
  else if 2 * r = d then q + q % 2
  else q + 1

/-- The bits of `mantissa · 2 ^ exponent`, rounded to the nearest number of the format, a half to
    the even neighbour; what is too large becomes infinity. -/
def BinaryFormat.round (f : BinaryFormat) (mantissa : Nat) (exponent : Int) : Nat :=
  if mantissa == 0 then 0
  else
    let fit := exponent + (mantissa.log2 : Int) - f.fractionBits
    let scale := max fit f.minExponent
    let steps :=
      if scale ≤ exponent then mantissa * Nat.pow 2 (exponent - scale).toNat
      else divNearestEven mantissa (Nat.pow 2 (scale - exponent).toNat)
    min ((scale - f.minExponent).toNat * Nat.pow 2 f.fractionBits + steps) f.infinityBits

/-- Writes a sign above the bits of a magnitude. -/
def BinaryFormat.withSign (f : BinaryFormat) (negative : Bool) (magnitude : Nat) : Nat :=
  if negative then f.signBit + magnitude else magnitude

/-- Moves the bits of format `f` into format `g`. Numbers are rounded; a NaN keeps its sign and the
    upper part of its payload and becomes quiet. -/
def convert (f g : BinaryFormat) (bits : Nat) : Nat :=
  match f.unpack bits with
  | .finite negative mantissa exponent => g.withSign negative (g.round mantissa exponent)
  | .infinite negative => g.withSign negative g.infinityBits
  | .nan negative payload =>
    let kept := payload * Nat.pow 2 g.fractionBits / Nat.pow 2 f.fractionBits
    let quiet := if kept / g.quietBit % 2 == 1 then kept else kept + g.quietBit
    g.withSign negative (g.infinityBits + quiet)

/-- A floating-point number with 32 bits. -/
structure Single where
  /-- The bits of the number. -/
  bits : UInt32
deriving DecidableEq

/-- A floating-point number with 64 bits. -/
structure Double where
  /-- The bits of the number. -/
  bits : UInt64
deriving DecidableEq

instance : Inhabited Single := ⟨⟨0⟩⟩

instance : Inhabited Double := ⟨⟨0⟩⟩

/-- What a number with 32 bits stands for. -/
def Single.unpack (x : Single) : Unpacked :=
  binary32.unpack x.bits.toNat

/-- What a number with 64 bits stands for. -/
def Double.unpack (x : Double) : Unpacked :=
  binary64.unpack x.bits.toNat

/-- The same number with 64 bits. -/
def Single.widen (x : Single) : Double :=
  ⟨(convert binary32 binary64 x.bits.toNat).toUInt64⟩

/-- The nearest number with 32 bits. -/
def Double.narrow (x : Double) : Single :=
  ⟨(convert binary64 binary32 x.bits.toNat).toUInt32⟩

/-- Is `x` no number? -/
def Single.isNaN (x : Single) : Bool :=
  x.unpack matches .nan _ _

/-- Is `x` no number? -/
def Double.isNaN (x : Double) : Bool :=
  x.unpack matches .nan _ _

/-- Equality of numbers: a NaN differs from everything, and the two zeros are equal. -/
def Double.same (x y : Double) : Bool :=
  match x.unpack, y.unpack with
  | .nan _ _, _ => false
  | _, .nan _ _ => false
  | .finite _ 0 _, .finite _ 0 _ => true
  | _, _ => x.bits == y.bits

end WireSchema.Number
