import WireSchema.Json
import WireSchema.Value.Basic

/-!
# Values as JSON and as text

In JSON an enum is the name of its member when it has one, and a message lists its declared fields
first, in the order of their declaration, and then the others by name. The one-line text of a
message lists all fields by name.
-/

namespace WireSchema

open WireSchema.Number

/-- Names in ascending order. -/
def sortNames (names : List String) : List String :=
  names.mergeSort fun a b => decide (a ≤ b)

/-- The entries with the given names, in the order of the names. -/
def pick {α : Type} (entries : List (String × α)) (names : List String) : List (String × α) :=
  names.filterMap fun name => (entries.lookup name).map (name, ·)

namespace Value

/-- The names of the fields that a message declares, or none for an unknown message. -/
def declaredNames (s : Schema) (name : String) : List String :=
  match s.message? name with
  | some m => m.fields.map Field.name
  | none => []

/-- The order of the fields of a message in JSON: declared ones first, then the others by name. -/
def jsonOrder (s : Schema) (name : String) (keys : List String) : List String :=
  let declared := declaredNames s name
  declared ++ sortNames (keys.filter fun k => !declared.contains k)

mutual

/-- A value as JSON. -/
def toJson (s : Schema) : Value → Json
  | bool b => .bool b
  | uint n => .int n.toNat
  | int n => .int n.toInt
  | float x =>
    match x.unpack with
    | .finite _ _ _ => .float x
    | _ => .null
  | string t => .string t
  | array items => .array (itemsToJson s items)
  | enumeration name raw =>
    match (enumeration name raw).enumMember? s with
    | some m => .string m
    | none => .int raw.toNat
  | message name fields =>
    let entries := fieldsToJson s fields
    .object (pick entries (jsonOrder s name (entries.map (·.1))))

/-- The items of an array as JSON. -/
def itemsToJson (s : Schema) : List Value → List Json
  | [] => []
  | v :: rest => v.toJson s :: itemsToJson s rest

/-- Fields as JSON, in the order in which they were set. -/
def fieldsToJson (s : Schema) : List (String × Value) → List (String × Json)
  | [] => []
  | (name, v) :: rest => (name, v.toJson s) :: fieldsToJson s rest

end

mutual

/-- A value as one line of text. -/
def toText : Value → String
  | bool b => if b then "true" else "false"
  | uint n => toString n.toNat
  | int n => toString n.toInt
  | float x => x.toText .literal
  | string s => Text.literal s
  | array items => "[" ++ ", ".intercalate (itemsToText items) ++ "]"
  | enumeration name raw => name ++ s!"({raw.toNat})"
  | message name fields =>
    let entries := fieldsToText fields
    let sorted := pick entries (sortNames (entries.map (·.1)))
    let shown := sorted.map fun (key, text) => key ++ ": " ++ text
    name ++ " \x7b" ++ ", ".intercalate shown ++ "\x7d"

/-- The items of an array as text. -/
def itemsToText : List Value → List String
  | [] => []
  | v :: rest => v.toText :: itemsToText rest

/-- Fields as text, in the order in which they were set. -/
def fieldsToText : List (String × Value) → List (String × String)
  | [] => []
  | (name, v) :: rest => (name, v.toText) :: fieldsToText rest

end

end Value

end WireSchema
