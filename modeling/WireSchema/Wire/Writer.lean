import WireSchema.Number.Binary
import WireSchema.Wire.Bytes
import WireSchema.Wire.Error

/-!
# Writing bytes

A writer appends to the bytes written so far. When it fails half way, what it has appended stays,
unless it runs inside `Writer.allOrNothing`, which cuts the bytes back to their old length.
-/

namespace WireSchema

open WireSchema.Number

/-- A writer with errors of type `ε` and results of type `α`. -/
abbrev Writer (ε α : Type) := EStateM ε ByteArray α

namespace Writer

variable {ε ε' α : Type}

/-- The same writer with its errors mapped. -/
def mapError (f : ε → ε') (w : Writer ε α) : Writer ε' α := fun b =>
  match w b with
  | .ok a b => .ok a b
  | .error e b => .error (f e) b

/-- Runs a writer and, if it fails, cuts the bytes back to the length they had before. -/
def allOrNothing (w : Writer ε α) : Writer ε α := fun b =>
  match w b with
  | .ok a b' => .ok a b'
  | .error e b' => .error e (b'.extract 0 b.size)

/-- The bytes that a writer produces from nothing. -/
def toBytes (w : Writer ε α) : Except ε ByteArray :=
  match w ByteArray.empty with
  | .ok _ b => .ok b
  | .error e _ => .error e

end Writer

section

variable {ε : Type}

/-- Appends bytes. -/
def writeBytes (bytes : ByteArray) : Writer ε Unit :=
  modify (· ++ bytes)

/-- Drops everything behind the first `n` bytes. -/
def truncate (n : Nat) : Writer ε Unit :=
  modify (·.extract 0 n)

/-- Appends a byte. -/
def writeU8 (v : UInt8) : Writer ε Unit := writeBytes (leBytes 1 v.toNat).toByteArray

/-- Appends an unsigned integer of 16 bits. -/
def writeU16 (v : UInt16) : Writer ε Unit := writeBytes (leBytes 2 v.toNat).toByteArray

/-- Appends an unsigned integer of 32 bits. -/
def writeU32 (v : UInt32) : Writer ε Unit := writeBytes (leBytes 4 v.toNat).toByteArray

/-- Appends an unsigned integer of 64 bits. -/
def writeU64 (v : UInt64) : Writer ε Unit := writeBytes (leBytes 8 v.toNat).toByteArray

/-- Appends a signed integer of eight bits. -/
def writeI8 (v : Int8) : Writer ε Unit := writeBytes (leBytesInt 1 v.toInt).toByteArray

/-- Appends a signed integer of 16 bits. -/
def writeI16 (v : Int16) : Writer ε Unit := writeBytes (leBytesInt 2 v.toInt).toByteArray

/-- Appends a signed integer of 32 bits. -/
def writeI32 (v : Int32) : Writer ε Unit := writeBytes (leBytesInt 4 v.toInt).toByteArray

/-- Appends a signed integer of 64 bits. -/
def writeI64 (v : Int64) : Writer ε Unit := writeBytes (leBytesInt 8 v.toInt).toByteArray

/-- Appends a floating-point number of 32 bits. -/
def writeSingle (v : Single) : Writer ε Unit := writeU32 v.bits

/-- Appends a floating-point number of 64 bits. -/
def writeDouble (v : Double) : Writer ε Unit := writeU64 v.bits

/-- Appends a truth value as a byte that is zero or one. -/
def writeBool (v : Bool) : Writer ε Unit := writeU8 (if v then 1 else 0)

end

/-- Appends an integer without a sign, which has to fit its width. -/
def writeUInt (w : Width) (v : Nat) : Writer EncodeError Unit :=
  if w.unsignedMax < v then throw (.outOfRange v ⟨false, w⟩)
  else writeBytes (leBytes w.bytes v).toByteArray

/-- Appends an integer with a sign, which has to fit its width. -/
def writeInt (w : Width) (v : Int) : Writer EncodeError Unit :=
  if v < w.signedMin || w.signedMax < v then throw (.outOfRange v ⟨true, w⟩)
  else writeBytes (leBytesInt w.bytes v).toByteArray

/-- Appends a length prefix. -/
def writeLen (n : Nat) : Writer EncodeError Unit :=
  if Width.w32.unsignedMax < n then throw (.lengthOverflow n)
  else writeBytes (leBytes 4 n).toByteArray

/-- Appends a text: the number of its bytes and the bytes. -/
def writeString (s : String) : Writer EncodeError Unit := do
  writeLen s.utf8ByteSize
  writeBytes s.toUTF8

/-- Appends elements one after the other. -/
def writeAll {α ε : Type} (element : α → Writer ε Unit) : List α → Writer ε Unit
  | [] => pure ()
  | a :: rest => do
    element a
    writeAll element rest

/-- Appends a sequence: the count of its elements and the elements. -/
def writeSeq {α : Type} (element : α → Writer EncodeError Unit) (items : List α) :
    Writer EncodeError Unit := do
  writeLen items.length
  writeAll element items

end WireSchema
