import WireSchema.Json
import WireSchema.Schema.Model

/-!
# Models as JSON

The JSON form of a model, with the keys of each part in a fixed order.
-/

namespace WireSchema

/-- A location as JSON. -/
def Location.toJson (l : Location) : Json :=
  .object [("source", .string l.source), ("line", .int l.line), ("column", .int l.column)]

/-- A length as JSON. -/
def ArrayLen.toJson : ArrayLen → Json
  | .fixed n => .object [("fixed", .int n)]
  | .counted => .string "variable"

/-- A kind as JSON. -/
def Kind.toJson : Kind → Json
  | .primitive p => .object [("primitive", .string p.name)]
  | .array element len =>
    .object [("array", .object [("element", element.toJson), ("len", len.toJson)])]
  | .named name => .object [("named", .string name)]
  | .unsupported text => .object [("unsupported", .string text)]

/-- A field as JSON. -/
def Field.toJson (f : Field) : Json :=
  .object
    [("name", .string f.name), ("kind", f.kind.toJson), ("order", .int f.order),
     ("location", f.location.toJson)]

/-- A message as JSON. -/
def Message.toJson (m : Message) : Json :=
  .object
    [("identifier", .int m.identifier), ("name", .string m.name), ("marker", .bool m.marker),
     ("namespace", .ofString? m.scope), ("fields", .array (m.fields.map Field.toJson)),
     ("location", m.location.toJson)]

/-- A member as JSON. -/
def Member.toJson (m : Member) : Json :=
  .object [("name", .string m.name), ("value", .int m.value), ("location", m.location.toJson)]

/-- An enum as JSON. -/
def Enumeration.toJson (e : Enumeration) : Json :=
  .object
    [("name", .string e.name), ("width", .ofString? (e.width.map Width.unsignedName)),
     ("namespace", .ofString? e.scope), ("members", .array (e.members.map Member.toJson)),
     ("location", e.location.toJson)]

/-- A model as JSON. -/
def Model.toJson (m : Model) : Json :=
  .object
    [("namespace", .ofString? m.scope), ("enums", .array (m.enums.map Enumeration.toJson)),
     ("messages", .array (m.messages.map Message.toJson))]

end WireSchema
