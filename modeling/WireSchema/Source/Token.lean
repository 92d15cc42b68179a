import WireSchema.Text.Quoted
import WireSchema.Wire.Width

/-!
# Tokens and where they stand

Schema text is a list of tokens with positions. An error in the text names its cause and the place
where the text went wrong.
-/

namespace WireSchema.Source

/-- A place in a text. Lines and columns count from one, columns in characters. -/
structure Position where
  line : Nat
  column : Nat
deriving DecidableEq, Inhabited

/-- The first place of a text. -/
def Position.start : Position := ⟨1, 1⟩

/-- The place behind a character. -/
def Position.step (p : Position) (c : Char) : Position :=
  if c == '\n' then ⟨p.line + 1, 1⟩ else ⟨p.line, p.column + 1⟩

/-- The place behind a text. -/
def Position.advance (p : Position) (s : List Char) : Position :=
  s.foldl Position.step p

/-- A token of schema text. The empty text marks the end. -/
structure Token where
  text : String
  position : Position
deriving DecidableEq, Inhabited

/-- What the text may be expected to go on with. -/
inductive Wanted
  | identifier
  | integer
  | width
  | type
  | mark (c : Char)
deriving DecidableEq

/-- The words for what is expected. -/
def Wanted.label : Wanted → String
  | identifier => "identifier"
  | integer => "integer"
  | width => "enum width"
  | type => "type"
  | mark c => String.ofList ['"', c, '"']

/-- Why a text is no schema. -/
inductive SyntaxCause
  /-- Characters that belong to no token. -/
  | stray (text : String)
  /-- A token stands where another one is needed. -/
  | expected (wanted : Wanted) (found : String)
  /-- An integer is out of range or not written in ASCII. -/
  | invalidInteger (text : String)
  /-- No definition starts with this token. -/
  | unexpected (text : String)
  /-- A message has no such attribute. -/
  | unknownAttribute (text : String)
  /-- No integer width has this name. -/
  | unknownWidth (text : String)
  /-- The bound on the nesting ran out. -/
  | tooDeep
deriving DecidableEq

/-- The cause of an error in words. -/
def SyntaxCause.message : SyntaxCause → String
  | stray text => "Syntax error: " ++ Text.jsonString text
  | expected wanted found => s!"Expected {wanted.label} but found " ++ Text.jsonString found
  | invalidInteger text => "Invalid integer " ++ Text.jsonString text
  | unexpected text => "Unexpected token " ++ Text.jsonString text
  | unknownAttribute text => "Unknown message attribute " ++ Text.jsonString text
  | unknownWidth text => Width.unknownMessage text
  | tooDeep => "Nesting is too deep"

/-- An error in schema text. -/
structure SyntaxError where
  position : Position
  cause : SyntaxCause
deriving DecidableEq

/-- An error in words, without its place. -/
def SyntaxError.reason (e : SyntaxError) : String :=
  e.cause.message

/-- An error in words. -/
def SyntaxError.message (e : SyntaxError) : String :=
  s!"Parse error at line {e.position.line}, column {e.position.column}: {e.reason}"

end WireSchema.Source
