import WireSchema.Number.Binary
import WireSchema.Wire.Bytes
import WireSchema.Wire.Error

/-!
# Reading bytes

A reader walks a cursor over fixed data. The cursor may start anywhere, also past the end, where
nothing remains. A reader that fails leaves the cursor where it failed, so a caller can tell how far
it came.

Besides with an error of decoding, a reader can stop in two ways that readers of messages never
show: asking for an empty slice past the end, or for more values than memory can hold, is a fault of
the caller, and a reader of nested messages has a bound on the nesting that runs out only when the
bound is too small.
-/

namespace WireSchema

open WireSchema.Number

/-- A position in data that is being read. -/
structure Cursor where
  /-- The data. -/
  data : ByteArray
  /-- The position of the next byte. -/
  index : Nat

/-- The number of bytes from the cursor to the end of the data. -/
def Cursor.remaining (c : Cursor) : Nat :=
  c.data.size - c.index

/-- A cursor at the start of data. -/
def Cursor.start (data : ByteArray) : Cursor :=
  ⟨data, 0⟩

/-- Why a reader stops early. -/
inductive Stop (ε : Type)
  /-- The data is not what is to be read. -/
  | error (e : ε)
  /-- An empty slice was asked for past the end of the data, or an array that no memory holds. -/
  | fault
  /-- The bound on the nesting of messages ran out. -/
  | exhausted
deriving DecidableEq

/-- The same stop with another error. -/
def Stop.map {ε ε' : Type} (f : ε → ε') : Stop ε → Stop ε'
  | .error e => .error (f e)
  | .fault => .fault
  | .exhausted => .exhausted

/-- A reader of values of type `α` with errors of type `ε`. -/
abbrev Reader (ε α : Type) := EStateM (Stop ε) Cursor α

namespace Reader

variable {ε ε' α : Type}

/-- Stops with an error. -/
def fail (e : ε) : Reader ε α :=
  throw (.error e)

/-- The same reader with its errors mapped. -/
def mapError (f : ε → ε') (r : Reader ε α) : Reader ε' α := fun c =>
  match r c with
  | .ok a c => .ok a c
  | .error s c => .error (s.map f) c

/-- Reads `n` values one after the other, behind those already read, which are given last first. -/
def repeatOnto (r : Reader ε α) : Nat → List α → Reader ε (List α)
  | 0, read => pure read.reverse
  | n + 1, read => do
    let a ← r
    repeatOnto r n (a :: read)

/-- Reads `n` values one after the other. -/
def times (n : Nat) (r : Reader ε α) : Reader ε (List α) :=
  repeatOnto r n []

end Reader

/-! ## Bytes and integers -/

/-- Reads the next `n` bytes. -/
def readBytes (n : Nat) : Reader DecodeError ByteArray := do
  let c ← get
  if c.remaining < n then
    Reader.fail (.truncated c.index n c.remaining)
  else if c.data.size < c.index then
    throw .fault
  else
    set { c with index := c.index + n }
    return c.data.extract c.index (c.index + n)

/-- Reads an integer without a sign. -/
def readUInt (w : Width) : Reader DecodeError Nat := do
  let bytes ← readBytes w.bytes
  return leValue bytes.data.toList

/-- Reads an integer with a sign. -/
def readInt (w : Width) : Reader DecodeError Int := do
  let bytes ← readBytes w.bytes
  return leValueInt bytes.data.toList

/-- Reads an unsigned integer of eight bits. -/
def readU8 : Reader DecodeError UInt8 := UInt8.ofNat <$> readUInt .w8

/-- Reads an unsigned integer of 16 bits. -/
def readU16 : Reader DecodeError UInt16 := UInt16.ofNat <$> readUInt .w16

/-- Reads an unsigned integer of 32 bits. -/
def readU32 : Reader DecodeError UInt32 := UInt32.ofNat <$> readUInt .w32

/-- Reads an unsigned integer of 64 bits. -/
def readU64 : Reader DecodeError UInt64 := UInt64.ofNat <$> readUInt .w64

/-- Reads a signed integer of eight bits. -/
def readI8 : Reader DecodeError Int8 := Int8.ofInt <$> readInt .w8

/-- Reads a signed integer of 16 bits. -/
def readI16 : Reader DecodeError Int16 := Int16.ofInt <$> readInt .w16

/-- Reads a signed integer of 32 bits. -/
def readI32 : Reader DecodeError Int32 := Int32.ofInt <$> readInt .w32

/-- Reads a signed integer of 64 bits. -/
def readI64 : Reader DecodeError Int64 := Int64.ofInt <$> readInt .w64

/-- Reads a floating-point number of 32 bits. -/
def readSingle : Reader DecodeError Single := Single.mk <$> readU32

/-- Reads a floating-point number of 64 bits. -/
def readDouble : Reader DecodeError Double := Double.mk <$> readU64

/-- Reads a truth value. The byte is consumed also when it is neither zero nor one. -/
def readBool : Reader DecodeError Bool := do
  let offset := (← get).index
  let byte ← readU8
  if byte = 0 then return false
  else if byte = 1 then return true
  else Reader.fail (.invalidBool offset byte)

/-! ## Lengths, texts and sequences -/

/-- Reads a length prefix. -/
def readLen : Reader DecodeError Nat :=
  readUInt .w32

/-- Reads a text: a length prefix and that many bytes of UTF-8. -/
def readString : Reader DecodeError String := do
  let offset := (← get).index
  let len ← readLen
  let remaining := (← get).remaining
  if remaining < len then
    Reader.fail (.lengthOverrun offset len remaining)
  else
    let bytes ← readBytes len
    match String.fromUTF8? bytes with
    | some s => return s
    | none => Reader.fail (.invalidUtf8 offset)

/-- Reads the count of a sequence whose elements take at least `minSize` bytes each, counted as one
    when that is zero. A count that the remaining bytes cannot hold is refused. -/
def readCount (minSize : Nat) : Reader DecodeError Nat := do
  let offset := (← get).index
  let count ← readLen
  let remaining := (← get).remaining
  let claimed := sizeMul count (max minSize 1)
  if remaining < claimed then
    Reader.fail (.lengthOverrun offset claimed remaining)
  else return count

/-- Reads a sequence: a count and that many elements. -/
def readSeq {α : Type} (minSize : Nat) (element : Reader DecodeError α) :
    Reader DecodeError (List α) := do
  let count ← readCount minSize
  element.times count

/-- Reads an array: exactly `n` elements without a prefix. -/
def readArray {ε α : Type} (element : Reader ε α) : (n : Nat) → Reader ε (Vector α n)
  | 0 => pure #v[]
  | n + 1 => do
    let front ← readArray element n
    let last ← element
    return front.push last

/-- Runs a reader from a cursor and gives its result without the cursor. -/
def Reader.result {ε α : Type} (r : Reader ε α) (c : Cursor) : Except (Stop ε) α :=
  match r c with
  | .ok a _ => .ok a
  | .error s _ => .error s

end WireSchema
