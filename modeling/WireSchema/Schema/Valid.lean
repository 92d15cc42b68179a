import WireSchema.Schema.Check.Fields
import WireSchema.Schema.Check.Names
import WireSchema.Schema.Check.Nesting
import WireSchema.Wire.Bytes

/-!
# Schemas

A schema is a model without problems. All problems of a model are found, not only the first, and
they are reported check by check.

In a schema every name of a field stands for something, names and identifiers are unique, and inline
nesting ends, so that every kind has a least size on the wire (`Schema.minSize`).
-/

namespace WireSchema

/-- The problems of a model, in the order of the checks. -/
def Model.problems (model : Model) : List Problem :=
  idProblems [] model.messages ++
  model.eachField kindProblems ++
  model.eachField (referenceProblems model) ++
  model.messages.flatMap emptinessProblems ++
  typeNameProblems [] model.typeNames ++
  model.messages.flatMap (fun m => fieldNameProblems m.name [] m.fields) ++
  model.enums.flatMap enumProblems ++
  model.cycles.filterMap model.cycleProblem? ++
  model.eachField (elementProblems model)

/-- A model without problems. -/
structure Schema where
  model : Model
  valid : model.problems = []

/-- The schema of a model, or all its problems. -/
def Model.validate (model : Model) : Except (List Problem) Schema :=
  match h : model.problems with
  | [] => .ok ⟨model, h⟩
  | p :: rest => .error (p :: rest)

namespace Schema

/-- The messages of a schema. -/
def messages (s : Schema) : List Message := s.model.messages

/-- The enums of a schema. -/
def enums (s : Schema) : List Enumeration := s.model.enums

/-- The message with a given name. -/
def message? (s : Schema) (name : String) : Option Message := s.model.message? name

/-- The enum with a given name. -/
def enumeration? (s : Schema) (name : String) : Option Enumeration := s.model.enumeration? name

/-- The message with a given identifier. -/
def messageById? (s : Schema) (id : UInt32) : Option Message := s.model.messageById? id

/-- What a name stands for. -/
def resolve? (s : Schema) (name : String) : Option TypeRef := s.model.resolve? name

end Schema

/-! ## Least sizes -/

/-- The least number of bytes that a value of a kind takes, where `named` gives it for names. -/
def Kind.minSize (named : String → Nat) : Kind → Nat
  | .primitive p => p.minSize
  | .array _ .counted => 4
  | .array element (.fixed n) => sizeMul n (element.minSize named)
  | .named name => named name
  | .unsupported _ => 0

/-- The least number of bytes that a value of a named kind takes, with at most `depth` messages one
    inside the other. -/
def Model.nameMinSize (model : Model) : Nat → String → Nat
  | 0, _ => 0
  | depth + 1, name =>
    match model.resolve? name with
    | some (.enumeration e) => e.wireWidth.bytes
    | some (.message m) =>
      m.fields.foldl (fun n f => sizeAdd n (f.kind.minSize (model.nameMinSize depth))) 0
    | none => 0

/-- The least number of bytes that a value of a kind takes. Inline nesting has no circles, so no
    more than all messages stand one inside the other, with an enum inside the last. -/
def Schema.minSize (s : Schema) (kind : Kind) : Nat :=
  kind.minSize (s.model.nameMinSize (s.messages.length + 1))

end WireSchema
