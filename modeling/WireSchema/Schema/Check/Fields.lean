import WireSchema.Schema.Problem

/-!
# Checks of identifiers and fields

Message identifiers are in range and distinct; every field is of a kind that the wire can hold and
refers to nothing unknown; only marked messages are without fields.
-/

namespace WireSchema

/-! ## Identifiers -/

/-- The problems of identifiers, where `seen` holds the messages whose identifiers are taken. -/
def idProblems (seen : List Message) : List Message → List Problem
  | [] => []
  | m :: rest =>
    if !isWireId m.identifier then
      .invalidMessageId m.identifier m.name m.location :: idProblems seen rest
    else
      match seen.find? fun s => s.identifier == m.identifier with
      | some first =>
        .duplicateMessageId m.identifier m.name first.name m.location first.location ::
          idProblems seen rest
      | none => idProblems (m :: seen) rest

/-! ## Kinds -/

/-- The largest number of elements of an array of fixed length. -/
def maxFixedLen : Nat := 65536

/-- The part of a kind that the wire cannot hold, as text. -/
def Kind.unsupportedPart? : Kind → Option String
  | unsupported text => some text
  | array element (.fixed 0) => some (array element (.fixed 0)).toText
  | array element _ => element.unsupportedPart?
  | primitive _ => none
  | named _ => none

/-- The greatest length of the arrays of fixed length in a kind. -/
def Kind.longestFixedLen : Kind → Nat
  | array element (.fixed n) => max n element.longestFixedLen
  | array element .counted => element.longestFixedLen
  | _ => 0

/-- The problems of the kind of a field. -/
def kindProblems (m : Message) (f : Field) : List Problem :=
  (match f.kind.unsupportedPart? with
    | some text => [.unsupportedKind m.name f.name text f.location]
    | none => []) ++
  (if maxFixedLen < f.kind.longestFixedLen then
    [.fixedArrayTooLong m.name f.name f.kind.longestFixedLen maxFixedLen f.location]
  else [])

/-! ## References -/

/-- Is a name that of a message or an enum? -/
def Model.defines (model : Model) (name : String) : Bool :=
  model.messages.any (·.name == name) || model.enums.any (·.name == name)

/-- The problems of what a field refers to. -/
def referenceProblems (model : Model) (m : Message) (f : Field) : List Problem :=
  match f.kind.base with
  | .named target =>
    if model.defines target then [] else [.unresolvedReference m.name f.name target f.location]
  | _ => []

/-! ## Empty messages -/

/-- The problems of a message without fields. -/
def emptinessProblems (m : Message) : List Problem :=
  if m.fields.isEmpty && !m.marker then [.emptyMessage m.name m.location] else []

/-- The problems that a check finds in the fields of all messages. -/
def Model.eachField (model : Model) (check : Message → Field → List Problem) : List Problem :=
  model.messages.flatMap fun m => m.fields.flatMap (check m)

end WireSchema
