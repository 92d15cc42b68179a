import WireSchema.Source.Definition
import WireSchema.Source.Lexer

/-!
# Reading definitions

Definitions are read from tokens by recursive descent:

    file      = item*
    item      = "namespace" name ("." name)* "{" item* "}"
              | "enum" name [":" width] "{" (name "=" integer ";")* "}"
              | "message" name ["=" integer] ["[" "marker" "]"] "{" (type name ";")* "}"
    type      = name ["<" type ("," type)* ">"] ("[" [integer] "]")*

The last token is never used up: when the tokens end too early it is seen again and again. Each
repetition takes a token off before it goes on, so the number of tokens bounds the nesting.
-/

namespace WireSchema.Source

open WireSchema.Text

/-! ## Tests on tokens -/

/-- Is a text an ASCII word? -/
def isIdentifier (text : String) : Bool :=
  match text.toList with
  | [] => false
  | c :: rest => isWordStart c && rest.all isWordRest

/-- Does a text consist of digits of any script, with an optional minus sign in front? -/
def isInteger (text : String) : Bool :=
  match text.toList with
  | '-' :: digits => !digits.isEmpty && digits.all isDecimalDigit
  | digits => !digits.isEmpty && digits.all isDecimalDigit

/-- The number with the given ASCII digits. -/
def digitsValue? (digits : List Char) : Option Nat :=
  if digits.isEmpty || !digits.all Char.isDigit then none
  else some (digits.foldl (fun n c => 10 * n + (c.toNat - '0'.toNat)) 0)

/-- The integer of 64 bits that a text stands for. -/
def integerValue? (text : String) : Option Int :=
  let value? :=
    match text.toList with
    | '-' :: digits => (digitsValue? digits).map fun n => -(n : Int)
    | digits => (digitsValue? digits).map fun n => (n : Int)
  value?.filter (IntType.contains ⟨true, .w64⟩)

/-! ## Streams of tokens -/

/-- The tokens still to be read. -/
structure Stream where
  /-- The token to be read next. -/
  current : Token
  /-- The tokens behind it. -/
  rest : List Token

/-- The stream behind its current token; the last token stays. -/
def Stream.next (s : Stream) : Stream :=
  match s.rest with
  | [] => s
  | t :: rest => ⟨t, rest⟩

/-- A parser of values of type `α`. -/
abbrev Parser (α : Type) := StateT Stream (Except SyntaxError) α

/-- The token to be read next. -/
def peek : Parser Token := do
  return (← get).current

/-- Stops at the current token. -/
def failHere {α : Type} (cause : String → SyntaxCause) : Parser α := do
  let t ← peek
  throw ⟨t.position, cause t.text⟩

/-- Takes the current token if it passes a test, and says whether it did. -/
def eat (test : String → Bool) : Parser Bool := do
  let s ← get
  if test s.current.text then
    set s.next
    return true
  else return false

/-- Takes the current token, which has to pass a test. -/
def expect (test : String → Bool) (wanted : Wanted) : Parser Token := do
  let t ← peek
  if ← eat test then return t
  else failHere (.expected wanted)

/-- The text of a punctuation mark. -/
def isMark (c : Char) (text : String) : Bool :=
  text == String.singleton c

/-- Takes a punctuation mark if it comes next. -/
def eatMark (c : Char) : Parser Bool :=
  eat (isMark c)

/-- Takes a punctuation mark, which has to come next. -/
def expectMark (c : Char) : Parser Unit := do
  let _ ← expect (isMark c) (.mark c)

/-- Takes a name. -/
def expectName : Parser Token :=
  expect isIdentifier .identifier

/-- Takes an integer of 64 bits. -/
def expectInteger : Parser Int := do
  let t ← expect isInteger .integer
  match integerValue? t.text with
  | some n => return n
  | none => throw ⟨t.position, .invalidInteger t.text⟩

/-! ## Types -/

/-- Reads the array suffixes behind a type. -/
def parseSuffixes : Nat → TypeExpr → Parser TypeExpr
  | 0, _ => failHere fun _ => .tooDeep
  | fuel + 1, type => do
    if ← eatMark '[' then
      if ← eatMark ']' then parseSuffixes fuel (.array type none)
      else
        let len ← expectInteger
        expectMark ']'
        parseSuffixes fuel (.array type (some len))
    else return type

mutual

/-- Reads a type. -/
def parseType : Nat → Parser TypeExpr
  | 0 => failHere fun _ => .tooDeep
  | fuel + 1 => do
    let t ← expect isIdentifier .type
    if ← eatMark '<' then
      let args ← parseArgs fuel
      parseSuffixes fuel (.generic t.text args)
    else parseSuffixes fuel (.name t.text)

/-- Reads the arguments of a type and the mark that closes them. -/
def parseArgs : Nat → Parser (List TypeExpr)
  | 0 => failHere fun _ => .tooDeep
  | fuel + 1 => do
    let arg ← parseType fuel
    if ← eatMark ',' then
      let args ← parseArgs fuel
      return arg :: args
    else
      expectMark '>'
      return [arg]

end

/-! ## Definitions -/

/-- Reads the members of an enum and the brace that closes them. -/
def parseMembers : Nat → Parser (List MemberDecl)
  | 0 => failHere fun _ => .tooDeep
  | fuel + 1 => do
    if ← eatMark '\x7d' then return []
    else
      let t ← expectName
      expectMark '='
      let value ← expectInteger
      expectMark ';'
      let members ← parseMembers fuel
      return ⟨t.text, t.position, value⟩ :: members

/-- Reads the width of an enum if one is written. -/
def parseWidth : Parser (Option Width) := do
  if ← eatMark ':' then
    let t ← expect isIdentifier .width
    match Width.ofName? t.text with
    | some w => return some w
    | none => throw ⟨t.position, .unknownWidth t.text⟩
  else return none

/-- Reads an enum behind its keyword. -/
def parseEnum (fuel : Nat) (scope : Option String) : Parser Definition := do
  let t ← expectName
  let width ← parseWidth
  expectMark '\x7b'
  let members ← parseMembers fuel
  return ⟨t.text, scope, t.position, .enum width members⟩

/-- Reads the fields of a message and the brace that closes them. -/
def parseFields : Nat → Parser (List FieldDecl)
  | 0 => failHere fun _ => .tooDeep
  | fuel + 1 => do
    if ← eatMark '\x7d' then return []
    else
      let type ← parseType fuel
      let t ← expectName
      expectMark ';'
      let fields ← parseFields fuel
      return ⟨t.text, t.position, type⟩ :: fields

/-- Reads the identifier of a message if one is written. -/
def parseTag : Parser (Option Int) := do
  if ← eatMark '=' then
    let id ← expectInteger
    return some id
  else return none

/-- Reads the attribute of a message, and says whether it is there. -/
def parseMarker : Parser Bool := do
  if ← eatMark '[' then
    if ← eat (· == "marker") then
      expectMark ']'
      return true
    else failHere .unknownAttribute
  else return false

/-- Reads a message behind its keyword. -/
def parseMessage (fuel : Nat) (scope : Option String) : Parser Definition := do
  let t ← expectName
  let id ← parseTag
  let marker ← parseMarker
  expectMark '\x7b'
  let fields ← parseFields fuel
  return ⟨t.text, scope, t.position, .message id marker fields⟩

/-- Reads the dotted path behind the keyword of a namespace. -/
def parsePath : Nat → Parser (List String)
  | 0 => failHere fun _ => .tooDeep
  | fuel + 1 => do
    let t ← expectName
    if ← eatMark '.' then
      let path ← parsePath fuel
      return t.text :: path
    else return [t.text]

/-- The path of a block inside another one. -/
def nestScope (outer : Option String) (path : List String) : String :=
  ".".intercalate (outer.toList ++ path)

/-- Do the definitions end here? At the top level they end at the empty token, inside a namespace at
    its closing brace, which takes precedence over the end of the text. -/
def parseEnd (scope : Option String) : Parser Bool := do
  match scope with
  | none => eat (· == "")
  | some _ =>
    if ← eatMark '\x7d' then return true
    else
      if (← peek).text == "" then expectMark '\x7d'
      return false

/-- Reads definitions up to the end of the text or of the namespace around them. -/
def parseItems : Nat → Option String → Parser (List Definition)
  | 0, _ => failHere fun _ => .tooDeep
  | fuel + 1, scope => do
    if ← parseEnd scope then return []
    else if ← eat (· == "namespace") then
      let path ← parsePath fuel
      expectMark '\x7b'
      let inner ← parseItems fuel (some (nestScope scope path))
      let rest ← parseItems fuel scope
      return inner ++ rest
    else if ← eat (· == "enum") then
      let d ← parseEnum fuel scope
      let rest ← parseItems fuel scope
      return d :: rest
    else if ← eat (· == "message") then
      let d ← parseMessage fuel scope
      let rest ← parseItems fuel scope
      return d :: rest
    else failHere .unexpected

/-- A bound on the nesting of what the given number of tokens can say. -/
def nestingBound (tokens : Nat) : Nat :=
  2 * tokens + 4

/-- The definitions that tokens say. No tokens at all say nothing. -/
def parseTokens (tokens : List Token) (label : String) : Except SyntaxError SourceFile := do
  match tokens with
  | [] => return ⟨label, []⟩
  | t :: rest =>
    let definitions ← (parseItems (nestingBound tokens.length) none).run' ⟨t, rest⟩
    return ⟨label, definitions⟩

/-- The definitions that a text says. -/
def parse (text label : String) : Except SyntaxError SourceFile := do
  parseTokens (← tokenize text) label

end WireSchema.Source
