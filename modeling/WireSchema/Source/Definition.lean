import WireSchema.Source.Token

/-!
# Definitions

What schema text says: a flat list of enums and messages, each with the dotted path of the namespace
blocks around it. Types are kept as they are written; nothing is looked up yet.
-/

namespace WireSchema.Source

/-- A type as it is written. -/
inductive TypeExpr
  /-- A name. -/
  | name (name : String)
  /-- A name with arguments. -/
  | generic (name : String) (args : List TypeExpr)
  /-- An array, with its length if one is written. -/
  | array (element : TypeExpr) (len : Option Int)

mutual

/-- The text of a type. -/
def TypeExpr.toText : TypeExpr → String
  | .name n => n
  | .generic n args => n ++ "<" ++ TypeExpr.listText args ++ ">"
  | .array element none => element.toText ++ "[]"
  | .array element (some n) => element.toText ++ s!"[{n}]"

/-- The texts of types with commas between them. -/
def TypeExpr.listText : List TypeExpr → String
  | [] => ""
  | [t] => t.toText
  | t :: rest => t.toText ++ ", " ++ TypeExpr.listText rest

end

/-- A member of an enum. -/
structure MemberDecl where
  name : String
  position : Position
  value : Int

/-- A field of a message. -/
structure FieldDecl where
  name : String
  position : Position
  type : TypeExpr

/-- What is defined. -/
inductive Body
  /-- An enum, with its width if one is written. -/
  | enum (width : Option Width) (members : List MemberDecl)
  /-- A message, with its identifier if one is written. -/
  | message (id : Option Int) (marker : Bool) (fields : List FieldDecl)

/-- A definition of a schema. -/
structure Definition where
  name : String
  /-- The dotted path of the namespace blocks around the definition. -/
  scope : Option String
  position : Position
  body : Body

/-- The definitions of one text. -/
structure SourceFile where
  /-- The label of the text. -/
  name : String
  definitions : List Definition

end WireSchema.Source
