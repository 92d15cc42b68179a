import WireSchema.Schema.Kind

/-!
# Models

A model holds the enums and messages of a schema in the order of their definition, each with the
place where it was written. Nothing about a model is certain yet: names may be unknown or repeated,
and identifiers may be out of range.
-/

namespace WireSchema

/-- Where something was written. -/
structure Location where
  /-- The label of the text. -/
  source : String
  line : Nat
  column : Nat
deriving DecidableEq

/-- A location as text. -/
def Location.toText (l : Location) : String :=
  s!"{l.source}:{l.line}:{l.column}"

/-- A field of a message. -/
structure Field where
  name : String
  kind : Kind
  /-- The position of the field in its message, and so on the wire. -/
  order : Nat
  location : Location
deriving DecidableEq

/-- A message. -/
structure Message where
  /-- The identifier as it is written. -/
  identifier : Int
  name : String
  /-- May the message be without fields? -/
  marker : Bool
  /-- The namespace around the message. -/
  scope : Option String
  fields : List Field
  location : Location
deriving DecidableEq

/-- Is an integer in the range of identifiers on the wire? -/
def isWireId (n : Int) : Bool :=
  0 ≤ n && n ≤ Width.w32.unsignedMax

/-- The identifier on the wire, or the largest one when it is out of range. -/
def Message.id (m : Message) : UInt32 :=
  if isWireId m.identifier then UInt32.ofNat m.identifier.toNat
  else UInt32.ofNat Width.w32.unsignedMax

/-- A member of an enum. -/
structure Member where
  name : String
  value : Int
  location : Location
deriving DecidableEq

/-- An enum. -/
structure Enumeration where
  name : String
  /-- The width that is declared or taken as the default. -/
  width : Option Width
  /-- The namespace around the enum. -/
  scope : Option String
  members : List Member
  location : Location
deriving DecidableEq

namespace Enumeration

/-- The largest value of a member, where negative ones count as zero. -/
def maxValue (e : Enumeration) : Nat :=
  e.members.foldl (fun n m => max n m.value.toNat) 0

/-- The width on the wire: the declared one, or the narrowest that holds all values. -/
def wireWidth (e : Enumeration) : Width :=
  e.width.getD (.smallestFor e.maxValue)

/-- The first member with a given value. -/
def memberOf? (e : Enumeration) (raw : Nat) : Option Member :=
  e.members.find? fun m => m.value == raw

end Enumeration

/-- The enums and messages of a schema. -/
structure Model where
  /-- The namespace that the definitions were taken from. -/
  scope : Option String
  enums : List Enumeration
  messages : List Message
deriving DecidableEq

/-- What a name stands for. -/
inductive TypeRef
  | message (m : Message)
  | enumeration (e : Enumeration)

/-- The position of the last item with a given key: in an index by keys, an item takes the place of
    an earlier one with its key. -/
def lastIndexOf? {α κ : Type} [BEq κ] (key : α → κ) (items : List α) (k : κ) : Option Nat :=
  ((items.zipIdx.filter fun (a, _) => key a == k).getLast?).map (·.2)

/-- The item that an index by keys leads to. -/
def lookUp? {α κ : Type} [BEq κ] (key : α → κ) (items : List α) (k : κ) : Option α :=
  (lastIndexOf? key items k).bind fun i => items[i]?

namespace Model

/-- The message with a given name. -/
def message? (model : Model) (name : String) : Option Message :=
  lookUp? Message.name model.messages name

/-- The enum with a given name. -/
def enumeration? (model : Model) (name : String) : Option Enumeration :=
  lookUp? Enumeration.name model.enums name

/-- The message with a given identifier on the wire. -/
def messageById? (model : Model) (id : UInt32) : Option Message :=
  lookUp? Message.id model.messages id

/-- What a name stands for. -/
def resolve? (model : Model) (name : String) : Option TypeRef :=
  match model.message? name with
  | some m => some (.message m)
  | none => (model.enumeration? name).map .enumeration

end Model

end WireSchema
