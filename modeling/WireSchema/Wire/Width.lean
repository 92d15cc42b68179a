/-!
# Integer widths

The fixed widths of integers on the wire, and the integer types they give with and without a sign.
-/

namespace WireSchema

/-- The width of an integer on the wire. -/
inductive Width
  | w8
  | w16
  | w32
  | w64
deriving DecidableEq, Inhabited

namespace Width

/-- All widths, the narrowest first. -/
def all : List Width := [w8, w16, w32, w64]

/-- Bytes that an integer of this width takes. -/
def bytes : Width → Nat
  | w8 => 1
  | w16 => 2
  | w32 => 4
  | w64 => 8

/-- Bits that an integer of this width takes. -/
def bits (w : Width) : Nat := 8 * w.bytes

/-- The largest integer without a sign. -/
def unsignedMax (w : Width) : Nat := Nat.pow 2 w.bits - 1

/-- The smallest integer with a sign. -/
def signedMin (w : Width) : Int := -Nat.pow 2 (w.bits - 1)

/-- The largest integer with a sign. -/
def signedMax (w : Width) : Int := Nat.pow 2 (w.bits - 1) - 1

/-- The narrowest width that holds `n`, or the widest when none does. -/
def smallestFor (n : Nat) : Width :=
  (all.find? fun w => n ≤ w.unsignedMax).getD w64

/-- The name of the integer type without a sign, which also names the width. -/
def unsignedName : Width → String
  | w8 => "u8"
  | w16 => "u16"
  | w32 => "u32"
  | w64 => "u64"

/-- The name of the integer type with a sign. -/
def signedName : Width → String
  | w8 => "i8"
  | w16 => "i16"
  | w32 => "i32"
  | w64 => "i64"

/-- The width with a given name. -/
def ofName? (s : String) : Option Width :=
  all.find? fun w => w.unsignedName == s

/-- What is said about a name that is no width. -/
def unknownMessage (s : String) : String :=
  "unknown integer width \"" ++ s ++ "\" (expected u8, u16, u32 or u64)"

end Width

/-- An integer type of the wire. -/
structure IntType where
  /-- Are there negative numbers? -/
  signed : Bool
  /-- The width of the type. -/
  width : Width
deriving DecidableEq, Inhabited

namespace IntType

/-- The name of the type. -/
def name (t : IntType) : String :=
  if t.signed then t.width.signedName else t.width.unsignedName

/-- The smallest integer of the type. -/
def min (t : IntType) : Int :=
  if t.signed then t.width.signedMin else 0

/-- The largest integer of the type. -/
def max (t : IntType) : Int :=
  if t.signed then t.width.signedMax else t.width.unsignedMax

/-- Is `n` an integer of the type? -/
def contains (t : IntType) (n : Int) : Bool :=
  t.min ≤ n && n ≤ t.max

end IntType

end WireSchema
