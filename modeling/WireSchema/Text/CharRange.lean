/-!
# Classes of characters as ranges

A class of characters is a table of ranges of code points. Alphabets that alternate between two
cases are written as one range with a stride of two, which keeps the tables short.

The tables in this folder hold the code points from U+0080 on; every test decides ASCII by a
comparison first, so that a statement about ASCII text never looks into a table. The classes that
tell tokens apart (digits, blanks and word characters) are those of Unicode 16.0; printing and
letter case follow Unicode 17.0.
-/

namespace WireSchema.Text

/-- The code points `first`, `first + stride`, … up to `last`. -/
structure CharRange where
  /-- Smallest code point of the range. -/
  first : Nat
  /-- Largest code point of the range. -/
  last : Nat
  /-- Distance between neighbours. -/
  stride : Nat
deriving DecidableEq

/-- Does the range hold the code point `n`? -/
def CharRange.contains (r : CharRange) (n : Nat) : Bool :=
  r.first ≤ n && n ≤ r.last && (n - r.first) % r.stride == 0

/-- Is `c` in one of the ranges of a table? -/
def inTable (table : List CharRange) (c : Char) : Bool :=
  table.any (·.contains c.toNat)

/-- Is `c` one of the first 128 code points? -/
def isAscii (c : Char) : Bool :=
  c.toNat < 0x80

end WireSchema.Text
