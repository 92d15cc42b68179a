import WireSchema.Text.CaseMap

/-!
# Names in generated code

A schema may spell its names in any convention. Generated code uses one: types and enum members
are written `PascalCase`, fields are written `snake_case`, and a name that collides with a keyword
of the target language gets an underscore at its end.
-/

namespace WireSchema.Naming

open WireSchema.Text

/-! ## Types and members -/

/-- The pieces of a text between underscores, empty ones included. -/
def splitUnderscores : List Char → List (List Char)
  | [] => [[]]
  | c :: rest =>
    if c == '_' then [] :: splitUnderscores rest
    else
      match splitUnderscores rest with
      | [] => [[c]]
      | word :: words => (c :: word) :: words

/-- A word with its first character in upper case and the others kept, or in lower case when
    `lowerRest` is set. -/
def capitalize (lowerRest : Bool) : List Char → List Char
  | [] => []
  | c :: rest => upperChars c ++ if lowerRest then lower rest else rest

/-- The `PascalCase` form of a name, on characters. Words between underscores are capitalized one
    by one. A name without underscores keeps its inner capitals, unless all of it is in upper
    case. -/
def pascalChars (s : List Char) : List Char :=
  if s.contains '_' then
    ((splitUnderscores s).filter (!·.isEmpty)).flatMap (capitalize true)
  else capitalize (s == upper s) s

/-- The `PascalCase` form of a name. -/
def pascal (s : String) : String :=
  String.ofList (pascalChars s.toList)

/-! ## Fields -/

/-- Does a new word begin at an upper-case character between `before` and `after`? It does behind
    a character that is neither upper case nor an underscore, and at the last capital of an acronym
    that runs into a word. -/
def beginsWord (before after : Option Char) : Bool :=
  match before with
  | none => false
  | some p => (!isUppercase p && p != '_') || (isUppercase p && after.any isLowercase)

/-- The `snake_case` form of the rest of a name behind the character `before`. -/
def snakeAfter (before : Option Char) : List Char → List Char
  | [] => []
  | c :: rest =>
    let here :=
      if isUppercase c then
        if beginsWord before rest.head? then '_' :: lowerChars c else lowerChars c
      else [c]
    here ++ snakeAfter (some c) rest

/-- The `snake_case` form of a name. -/
def snake (s : String) : String :=
  String.ofList (snakeAfter none s.toList)

/-! ## Keywords -/

/-- The words that cannot be used as identifiers in generated code. -/
def keywords : List String :=
  ["as", "break", "const", "continue", "crate", "else", "enum", "extern", "false", "fn", "for",
   "if", "impl", "in", "let", "loop", "match", "mod", "move", "mut", "pub", "ref", "return",
   "self", "Self", "static", "struct", "super", "trait", "true", "type", "unsafe", "use",
   "where", "while", "async", "await", "dyn", "abstract", "become", "box", "do", "final",
   "macro", "override", "priv", "typeof", "unsized", "virtual", "yield", "try"]

/-- A name that is no keyword: keywords get an underscore at their end. -/
def escapeKeyword (s : String) : String :=
  if keywords.contains s then s ++ "_" else s

/-- The identifier of a field in generated code. -/
def fieldIdent (name : String) : String :=
  escapeKeyword (snake name)

/-- The identifier of a type or an enum member in generated code. -/
def typeIdent (name : String) : String :=
  escapeKeyword (pascal name)

end WireSchema.Naming
