import WireSchema.Value.Basic
import WireSchema.Wire.Reader

/-!
# Decoding values

A value of a kind is read as the kind says. Messages nest by name, so their readers are bounded in
depth; `Schema.depthBound` is a bound that never runs out, because inline nesting has no circles and
every counted array on the way down takes bytes for its count.
-/

namespace WireSchema

open WireSchema.Number

/-- Reads a value of a primitive kind. -/
def Primitive.read : Primitive → Reader DecodeError Value
  | .int t =>
    if t.signed then (fun n => .int (Int64.ofInt n)) <$> readInt t.width
    else (fun n => .uint (UInt64.ofNat n)) <$> readUInt t.width
  | .single => (fun x => .float x.widen) <$> readSingle
  | .double => .float <$> readDouble
  | .bool => .bool <$> readBool
  | .string => .string <$> readString

/-- The most values that one array holds. Room for a fixed array is set aside before its elements
    are read: 72 bytes a value, in a block that ends on a multiple of eight below 2^63. -/
def Value.maxCount : Nat :=
  (Nat.pow 2 63 - 8) / 72

/-- Reads a value of a kind, where `message` reads messages. An array of fixed length is refused at
    its start when the remaining bytes cannot hold it. Elements that take no bytes pass that test in
    any number, and then more than `Value.maxCount` of them are a fault. -/
def Kind.read (s : Schema) (message : Message → Reader ValueError Value) :
    Kind → Reader ValueError Value
  | .primitive p => p.read.mapError .decode
  | .array element .counted => do
    let count ← (readCount (s.minSize element)).mapError .decode
    let items ← (element.read s message).times count
    return .array items
  | .array element (.fixed n) => do
    let c ← get
    let needed := sizeMul n (s.minSize element)
    if c.remaining < needed then
      Reader.fail (.decode (.truncated c.index needed c.remaining))
    else if Value.maxCount < n then
      throw .fault
    else
      let items ← (element.read s message).times n
      return .array items
  | .named name =>
    match s.resolve? name with
    | some (.enumeration e) => do
      let raw ← (readUInt e.wireWidth).mapError .decode
      return .enumeration e.name (UInt64.ofNat raw)
    | some (.message m) => message m
    | none => Reader.fail (.unknownType name)
  | .unsupported text => Reader.fail (.unknownType text)

/-- Reads fields in the order of their declaration. -/
def readFields (read : Kind → Reader ValueError Value) :
    List Field → Reader ValueError (List (String × Value))
  | [] => pure []
  | f :: rest => do
    let v ← read f.kind
    let values ← readFields read rest
    return (f.name, v) :: values

/-- Reads a message with at most `depth` messages one inside the other. -/
def Message.readWithin (s : Schema) : Nat → Message → Reader ValueError Value
  | 0, _ => throw .exhausted
  | depth + 1, m => do
    let fields ← readFields (Kind.read s (Message.readWithin s depth)) m.fields
    return .message m.name fields

/-- A bound on how deep messages nest in data of a given size: between two counted arrays, which
    take bytes, no message occurs twice. -/
def Schema.depthBound (s : Schema) (size : Nat) : Nat :=
  (s.messages.length + 1) * (size + 1)

namespace Value

/-- Reads a message. -/
def readMessage (s : Schema) (m : Message) : Reader ValueError Value := do
  m.readWithin s (s.depthBound (← get).data.size)

/-- Reads a value of a given kind. -/
def readField (s : Schema) (kind : Kind) : Reader ValueError Value := do
  kind.read s (Message.readWithin s (s.depthBound (← get).data.size))

/-- The message with a given name at the start of data. -/
def decode (s : Schema) (name : String) (data : ByteArray) : Except (Stop ValueError) Value :=
  match s.message? name with
  | none => .error (.error (.unknownType name))
  | some m => (readMessage s m).result (.start data)

/-- The message with a given identifier at the start of data. -/
def decodeFrame (s : Schema) (id : UInt32) (data : ByteArray) : Except (Stop ValueError) Value :=
  match s.messageById? id with
  | none => .error (.error (.unknownId id))
  | some m => (readMessage s m).result (.start data)

end Value

end WireSchema
