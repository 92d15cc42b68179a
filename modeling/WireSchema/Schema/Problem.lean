import WireSchema.Schema.Model

/-!
# Problems of a model

Each problem that keeps a model from being a schema, with what is needed to report it.
-/

namespace WireSchema

/-- Why a model is no schema. -/
inductive Problem
  /-- Two messages have one identifier. -/
  | duplicateMessageId (id : Int) (message first : String) (location firstLocation : Location)
  /-- An identifier is out of range. -/
  | invalidMessageId (id : Int) (message : String) (location : Location)
  /-- The wire cannot hold a field. -/
  | unsupportedKind (owner field kind : String) (location : Location)
  /-- An array of fixed length is too long. -/
  | fixedArrayTooLong (owner field : String) (length limit : Nat) (location : Location)
  /-- The elements of a counted array take no bytes. -/
  | zeroWidthElement (owner field kind : String) (location : Location)
  /-- A name stands for nothing. -/
  | unresolvedReference (owner field target : String) (location : Location)
  /-- A message has no fields, and is not marked to have none. -/
  | emptyMessage (message : String) (location : Location)
  /-- Two types have one name in generated code. -/
  | duplicateTypeName (name : String) (location firstLocation : Location)
  /-- Generated code needs the name itself. -/
  | reservedTypeName (name : String) (location : Location)
  /-- Two fields of a message or members of an enum have one name in generated code. -/
  | duplicateFieldName (owner first second generated : String) (location : Location)
  /-- An enum has no members. -/
  | emptyEnum (name : String) (location : Location)
  /-- Two members of an enum have one value. -/
  | duplicateEnumValue (name member first : String) (value : Int) (location : Location)
  /-- The value of a member does not fit the width of its enum. -/
  | enumValueOutOfRange (name member : String) (value : Int) (width : Width) (location : Location)
  /-- A message would hold itself. -/
  | recursiveNesting (message : String) (path : List String) (location : Location)
  /-- Two messages claim one place in the registry. -/
  | ambiguousRegistryEntry (id : UInt32) (first second : String)
deriving DecidableEq

/-- A problem in words. -/
def Problem.message : Problem → String
  | duplicateMessageId id message first location firstLocation =>
    s!"{location.toText}: message {Text.literal message} reuses identifier {id}, already taken " ++
      s!"by {Text.literal first} at {firstLocation.toText}"
  | invalidMessageId id message location =>
    s!"{location.toText}: message {Text.literal message} has identifier {id}, expected a value " ++
      "in 0..=4294967295"
  | unsupportedKind owner field kind location =>
    s!"{location.toText}: field {Text.literal field} of {Text.literal owner} has unsupported " ++
      s!"kind {Text.literal kind}"
  | fixedArrayTooLong owner field length limit location =>
    s!"{location.toText}: field {Text.literal field} of {Text.literal owner} declares a fixed " ++
      s!"array of {length} elements, the limit is {limit}"
  | zeroWidthElement owner field kind location =>
    s!"{location.toText}: field {Text.literal field} of {Text.literal owner} is a variable " ++
      s!"array of {Text.literal kind}, whose elements occupy no bytes on the wire"
  | unresolvedReference owner field target location =>
    s!"{location.toText}: field {Text.literal field} of {Text.literal owner} references " ++
      s!"{Text.literal target}, which is not a message or enum in this schema"
  | emptyMessage message location =>
    s!"{location.toText}: message {Text.literal message} has no fields (mark it [marker] if " ++
      "that is intended)"
  | duplicateTypeName name location firstLocation =>
    s!"{location.toText}: the type {Text.literal name} is defined twice (first at " ++
      s!"{firstLocation.toText})"
  | reservedTypeName name location =>
    s!"{location.toText}: the type name {Text.literal name} is reserved"
  | duplicateFieldName owner first second generated location =>
    s!"{location.toText}: {Text.literal owner} declares {Text.literal second}, which collides " ++
      s!"with {Text.literal first} as {Text.literal generated}"
  | emptyEnum name location => s!"{location.toText}: enum {Text.literal name} has no members"
  | duplicateEnumValue name member first value location =>
    s!"{location.toText}: member {Text.literal member} of enum {Text.literal name} reuses value " ++
      s!"{value}, already taken by {Text.literal first}"
  | enumValueOutOfRange name member value width location =>
    s!"{location.toText}: member {Text.literal member} of enum {Text.literal name} has value " ++
      s!"{value}, which does not fit {width.unsignedName}"
  | recursiveNesting _ path location =>
    let steps := " -> ".intercalate path
    s!"{location.toText}: recursive nesting {steps} needs a variable-length array somewhere in " ++
      "the cycle"
  | ambiguousRegistryEntry id first second =>
    s!"registry identifier {id.toNat} is claimed by both {Text.literal first} and " ++
      s!"{Text.literal second}"

/-- All problems of a model in words. -/
def Problem.report (problems : List Problem) : String :=
  problems.foldl (fun text p => text ++ "\n  " ++ p.message)
    s!"schema has {problems.length} error(s):"

end WireSchema
