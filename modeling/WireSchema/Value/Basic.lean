import WireSchema.Schema.Valid
import WireSchema.Wire.Error
import WireSchema.Number.Style

/-!
# Values

Message data that describes itself, for tools that have a schema but no code generated from it. A
message holds its fields by name; the order in which they were set does not matter.
-/

namespace WireSchema

open WireSchema.Number

/-- Message data. -/
inductive Value
  /-- A truth value. -/
  | bool (b : Bool)
  /-- An integer without a sign. -/
  | uint (n : UInt64)
  /-- An integer with a sign. -/
  | int (n : Int64)
  /-- A floating-point number. -/
  | float (x : Double)
  /-- A text. -/
  | string (s : String)
  /-- An array. -/
  | array (items : List Value)
  /-- An integer of an enum, which need not belong to a member. -/
  | enumeration (name : String) (raw : UInt64)
  /-- A message with its fields. -/
  | message (name : String) (fields : List (String × Value))

namespace Value

/-! ## Parts -/

/-- The truth value, or false for other values. -/
def asBool : Value → Bool
  | bool b => b
  | _ => false

/-- The integer without a sign, or zero for other values. -/
def asUInt : Value → UInt64
  | uint n => n
  | _ => 0

/-- The integer with a sign, or zero for other values. -/
def asInt : Value → Int64
  | int n => n
  | _ => 0

/-- The floating-point number, or zero for other values. -/
def asFloat : Value → Double
  | float x => x
  | _ => ⟨0⟩

/-- The text, or the empty one for other values. -/
def asString : Value → String
  | string s => s
  | _ => ""

/-- The items of an array, or none for other values. -/
def asArray : Value → List Value
  | array items => items
  | _ => []

/-- The name and the integer of an enum. -/
def asEnum? : Value → Option (String × UInt64)
  | enumeration name raw => some (name, raw)
  | _ => none

/-- The member name of an enum, if its integer belongs to one. -/
def enumMember? (s : Schema) (v : Value) : Option String := do
  let (name, raw) ← v.asEnum?
  let e ← s.enumeration? name
  let m ← e.memberOf? raw.toNat
  return m.name

/-- The number of items of an array, or zero for other values. -/
def size (v : Value) : Nat :=
  v.asArray.length

/-- A field of a message. -/
def get? (v : Value) (name : String) : Option Value :=
  match v with
  | message _ fields => fields.lookup name
  | _ => none

/-- Fields with one of them set: its old value is replaced where it stands, a new one comes last. -/
def setField (name : String) (v : Value) : List (String × Value) → List (String × Value)
  | [] => [(name, v)]
  | (key, old) :: rest =>
    if key == name then (key, v) :: rest else (key, old) :: setField name v rest

/-- A message with one field set. Other values stay as they are. -/
def set (target : Value) (name : String) (v : Value) : Value :=
  match target with
  | message type fields => message type (setField name v fields)
  | other => other

/-! ## Equality -/

mutual

/-- Are two values equal? Integers of different signedness differ, floating-point numbers are
    compared as numbers, and messages by their fields in any order. -/
def same : Value → Value → Bool
  | bool a, bool b => a == b
  | uint a, uint b => a == b
  | int a, int b => a == b
  | float a, float b => a.same b
  | string a, string b => a == b
  | array as, array bs => sameItems as bs
  | enumeration a m, enumeration b n => a == b && m == n
  | message a fs, message b gs => a == b && fs.length == gs.length && sameFields fs gs
  | _, _ => false

/-- Are the items of two arrays equal? -/
def sameItems : List Value → List Value → Bool
  | [], [] => true
  | a :: as, b :: bs => a.same b && sameItems as bs
  | _, _ => false

/-- Are these fields equal to those of the same names among others? -/
def sameFields : List (String × Value) → List (String × Value) → Bool
  | [], _ => true
  | (key, v) :: rest, others =>
    (match others.lookup key with
      | some w => v.same w
      | none => false) && sameFields rest others

end

/-! ## Words -/

/-- What a value is, in words. -/
def describe : Value → String
  | bool _ => "bool"
  | uint _ => "unsigned integer"
  | int _ => "signed integer"
  | float _ => "float"
  | string _ => "string"
  | array _ => "array"
  | enumeration name _ => "enum " ++ name
  | message name _ => "message " ++ name

end Value

/-- Why a value cannot be encoded or decoded. -/
inductive ValueError
  /-- The value cannot be written. -/
  | encode (e : EncodeError)
  /-- The bytes cannot be read. -/
  | decode (e : DecodeError)
  /-- No message or enum has the name. -/
  | unknownType (name : String)
  /-- No message has the identifier. -/
  | unknownId (id : UInt32)
  /-- A message lacks a field. -/
  | missingField (message field : String)
  /-- The value is of another kind. -/
  | typeMismatch (expected found : String)
  /-- A number has more digits than 32 bits hold. -/
  | inexactFloat (x : Double)
deriving DecidableEq

/-- An error in words. -/
def ValueError.message : ValueError → String
  | encode e => e.message
  | decode e => e.message
  | unknownType name => s!"no message or enum named {Text.literal name} in the schema"
  | unknownId id => s!"no message with identifier {id.toNat} in the schema"
  | missingField message field =>
    s!"message {Text.literal message} is missing field {Text.literal field}"
  | typeMismatch expected found => s!"expected {expected}, found {found}"
  | inexactFloat x => x.toText .plain ++ " cannot be represented exactly as f32"

end WireSchema
