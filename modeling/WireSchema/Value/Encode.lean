import WireSchema.Value.Basic
import WireSchema.Wire.Writer

/-!
# Encoding values

A value is written as a value of a kind. The fields of a message are written in the order of its
declaration; fields that the message does not declare are passed over.
-/

namespace WireSchema

open WireSchema.Number

namespace Value

/-- The error that a value is not what is expected. -/
def mismatch (v : Value) (expected : String) : Writer ValueError Unit :=
  throw (.typeMismatch expected v.describe)

/-- An integer with a sign as one without a sign, which a negative one is not. -/
def unsigned? (n : Int64) : Option UInt64 :=
  if n < 0 then none else some n.toUInt64

/-- An integer without a sign as one with a sign, which one with its top bit set is not. -/
def signed? (n : UInt64) : Option Int64 :=
  if Int64.maxValue.toUInt64 < n then none else some n.toInt64

/-- Appends an integer as one of a given type. Where the value and the type do not agree on the
    sign, the integer is converted first. -/
def writeInteger (t : IntType) (v : Value) : Writer ValueError Unit :=
  match v, t.signed with
  | uint n, false => (writeUInt t.width n.toNat).mapError .encode
  | int n, false =>
    match unsigned? n with
    | none => throw (.encode (.outOfRange n.toInt t))
    | some m => (writeUInt t.width m.toNat).mapError .encode
  | int n, true => (writeInt t.width n.toInt).mapError .encode
  | uint n, true =>
    match signed? n with
    | none => throw (.encode (.outOfRange n.toNat t))
    | some m => (writeInt t.width m.toInt).mapError .encode
  | v, _ => v.mismatch t.name

/-- Appends a number with 32 bits, which has to be exact. -/
def writeNarrow (x : Double) : Writer ValueError Unit :=
  if x.narrow.widen.same x || x.isNaN then writeSingle x.narrow
  else throw (.inexactFloat x)

/-- Appends a value of a primitive kind. -/
def writePrimitive (p : Primitive) (v : Value) : Writer ValueError Unit :=
  match p, v with
  | .int t, v => v.writeInteger t
  | .single, float x => writeNarrow x
  | .double, float x => writeDouble x
  | .bool, bool b => writeBool b
  | .string, string s => (writeString s).mapError .encode
  | p, v => v.mismatch p.name

/-- Appends a value of an enum. -/
def writeEnum (e : Enumeration) (v : Value) : Writer ValueError Unit :=
  match v with
  | enumeration name raw =>
    if name == e.name then (writeUInt e.wireWidth raw.toNat).mapError .encode
    else v.mismatch ("enum " ++ e.name)
  | _ => v.mismatch ("enum " ++ e.name)

/-- Appends what stands in front of the items of an array, whose number has to fit its kind. -/
def writeArrayLen (len : ArrayLen) (n : Nat) : Writer EncodeError Unit :=
  match len with
  | .counted => writeLen n
  | .fixed expected => if expected = n then pure () else throw (.lengthMismatch expected n)

/-- Appends the declared fields of a message, each by its writer. -/
def writeFields (m : Message) (writers : List (String × (Kind → Writer ValueError Unit))) :
    List Field → Writer ValueError Unit
  | [] => pure ()
  | f :: rest => do
    match writers.lookup f.name with
    | none => throw (.missingField m.name f.name)
    | some write => write f.kind
    writeFields m writers rest

mutual

/-- Appends a value of a given kind. What was written before a failure stays. -/
def write (s : Schema) (v : Value) (kind : Kind) : Writer ValueError Unit :=
  match kind with
  | .primitive p => v.writePrimitive p
  | .array element len =>
    match v with
    | array items => do
      (writeArrayLen len items.length).mapError .encode
      writeItems s items element
    | _ => v.mismatch kind.toText
  | .named name =>
    match s.resolve? name with
    | some (.enumeration e) => v.writeEnum e
    | some (.message m) =>
      match v with
      | message type fields =>
        if type == m.name then writeFields m (fieldWriters s fields) m.fields
        else v.mismatch ("message " ++ m.name)
      | _ => v.mismatch ("message " ++ m.name)
    | none => throw (.unknownType name)
  | .unsupported text => throw (.unknownType text)
termination_by structural v

/-- Appends the items of an array. -/
def writeItems (s : Schema) (items : List Value) (element : Kind) : Writer ValueError Unit :=
  match items with
  | [] => pure ()
  | v :: rest => do
    v.write s element
    writeItems s rest element
termination_by structural items

/-- The writers of fields by name. -/
def fieldWriters (s : Schema) (fields : List (String × Value)) :
    List (String × (Kind → Writer ValueError Unit)) :=
  match fields with
  | [] => []
  | (name, v) :: rest => (name, v.write s) :: fieldWriters s rest
termination_by structural fields

end

/-- Appends a value of a given kind, or nothing when that fails. -/
def encodeField (s : Schema) (v : Value) (kind : Kind) : Writer ValueError Unit :=
  (v.write s kind).allOrNothing

/-- The bytes of a message. -/
def encode (s : Schema) (v : Value) : Except ValueError ByteArray :=
  match v with
  | message name _ =>
    match s.message? name with
    | none => .error (.unknownType name)
    | some m => (v.write s (.named m.name)).toBytes
  | _ => .error (.typeMismatch "message" v.describe)

end Value

end WireSchema
