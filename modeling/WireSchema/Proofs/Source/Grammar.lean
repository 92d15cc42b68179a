import Mathlib.Data.Nat.Digits.Defs
import WireSchema.Source.Parser

/-!
# The grammar of schema text

    file  = item* end
    item  = "namespace" name ("." name)* "{" item* "}"
          | "enum" name [":" width] "{" (name "=" integer ";")* "}"
          | "message" name ["=" integer] ["[" "marker" "]"] "{" (type name ";")* "}"
    type  = name ["<" type ("," type)* ">"] ("[" [integer] "]")*

A derivation is a tree with tokens as its leaves. There is a type of trees for each rule, and a leaf
carries the proof that its text is one that the rule asks for, so every tree is a derivation. The
tokens that it derives are its leaves from left to right (`Phrase.tokens`).

The trees also tell what is defined (`Derivation.definitions`): the definitions in the order of the
text, each with the names of all namespaces around it.
-/

namespace WireSchema.Source

/-! ## Texts of leaves -/

/-- The letters of names, which are those of ASCII and the underscore. -/
def IsLetter (c : Char) : Prop :=
  ('A' ≤ c ∧ c ≤ 'Z') ∨ ('a' ≤ c ∧ c ≤ 'z') ∨ c = '_'

/-- The digits of integers, which are those of ASCII. -/
def IsDigit (c : Char) : Prop :=
  '0' ≤ c ∧ c ≤ '9'

instance (c : Char) : Decidable (IsLetter c) :=
  inferInstanceAs (Decidable (_ ∨ _ ∨ _))

instance (c : Char) : Decidable (IsDigit c) :=
  inferInstanceAs (Decidable (_ ∧ _))

/-- The text is a letter with letters and digits behind it. -/
def IsName (text : String) : Prop :=
  ∃ c rest, text.toList = c :: rest ∧ IsLetter c ∧ ∀ d ∈ rest, IsLetter d ∨ IsDigit d

/-- The number that digits stand for, the last one for the units. -/
def decimal (digits : List Char) : Nat :=
  Nat.ofDigits 10 (digits.reverse.map fun c => c.toNat - '0'.toNat)

/-- A text without the minus sign in front. -/
def digitsOf (text : String) : List Char :=
  match text.toList with
  | '-' :: digits => digits
  | digits => digits

/-- The integer that a text of digits stands for, with or without a minus sign in front. -/
def integerOf (text : String) : Int :=
  match text.toList with
  | '-' :: _ => -decimal (digitsOf text)
  | _ => decimal (digitsOf text)

/-- The text consists of digits, with or without a minus sign in front, and stands for an integer of
    64 bits. -/
def IsInteger (text : String) : Prop :=
  digitsOf text ≠ [] ∧ (∀ c ∈ digitsOf text, IsDigit c) ∧
  -9223372036854775808 ≤ integerOf text ∧ integerOf text ≤ 9223372036854775807

/-- The text names a width. -/
def IsWidth (text : String) : Prop :=
  text = "u8" ∨ text = "u16" ∨ text = "u32" ∨ text = "u64"

/-- The width that a text names. -/
def widthOf (text : String) : Width :=
  if text = "u8" then .w8 else if text = "u16" then .w16 else if text = "u32" then .w32 else .w64

/-- The words with a meaning of their own. -/
inductive Keyword
  | scope
  | enum
  | message
  | marker

/-- The text of a keyword. -/
def Keyword.text : Keyword → String
  | scope => "namespace"
  | enum => "enum"
  | message => "message"
  | marker => "marker"

/-! ## Leaves -/

/-- A token with a text of a given sort. -/
@[ext]
structure Leaf (sort : String → Prop) where
  token : Token
  isOf : sort token.text

/-- A keyword. -/
abbrev Word (k : Keyword) := Leaf (· = k.text)

/-- A punctuation mark. -/
abbrev Mark (c : Char) := Leaf (· = String.singleton c)

/-- A name. Keywords are names, too. -/
abbrev Name := Leaf IsName

/-- An integer. -/
abbrev IntegerLeaf := Leaf IsInteger

/-- A width. -/
abbrev WidthLeaf := Leaf IsWidth

/-! ## Trees -/

/-- `"[" [integer] "]"` -/
structure Suffix where
  left : Mark '['
  len : Option IntegerLeaf
  right : Mark ']'

mutual

/-- `name ["<" type ("," type)* ">"] ("[" [integer] "]")*` -/
inductive TypeTree
  | plain (name : Name) (suffixes : List Suffix)
  | generic (name : Name) (left : Mark '<') (args : ArgsTree) (suffixes : List Suffix)

/-- `type ("," type)* ">"` -/
inductive ArgsTree
  | last (type : TypeTree) (right : Mark '>')
  | more (type : TypeTree) (comma : Mark ',') (rest : ArgsTree)

end

/-- `name "=" integer ";"` -/
structure MemberTree where
  name : Name
  equals : Mark '='
  value : IntegerLeaf
  semicolon : Mark ';'

/-- `":" width` -/
structure WidthTree where
  colon : Mark ':'
  width : WidthLeaf

/-- An enum behind its keyword: `name [":" width] "{" (name "=" integer ";")* "}"` -/
structure EnumTree where
  name : Name
  width : Option WidthTree
  left : Mark '\x7b'
  members : List MemberTree
  right : Mark '\x7d'

/-- `type name ";"` -/
structure FieldTree where
  type : TypeTree
  name : Name
  semicolon : Mark ';'

/-- `"=" integer` -/
structure TagTree where
  equals : Mark '='
  id : IntegerLeaf

/-- `"[" "marker" "]"` -/
structure MarkerTree where
  left : Mark '['
  word : Word .marker
  right : Mark ']'

/-- A message behind its keyword:
    `name ["=" integer] ["[" "marker" "]"] "{" (type name ";")* "}"` -/
structure MessageTree where
  name : Name
  tag : Option TagTree
  marker : Option MarkerTree
  left : Mark '\x7b'
  fields : List FieldTree
  right : Mark '\x7d'

/-- `name ("." name)*` -/
inductive PathTree
  | last (name : Name)
  | more (name : Name) (dot : Mark '.') (rest : PathTree)

/-- `item*`, where each item but the missing one has the others behind it. -/
inductive Items
  | nil
  | block (keyword : Word .scope) (path : PathTree) (left : Mark '\x7b') (inner : Items)
      (right : Mark '\x7d') (rest : Items)
  | enum (keyword : Word .enum) (decl : EnumTree) (rest : Items)
  | message (keyword : Word .message) (decl : MessageTree) (rest : Items)

/-- `item* end` -/
structure Derivation where
  items : Items
  stop : Leaf (· = "")

/-! ## Leaves of trees -/

/-- Types of trees. None of the leaves marks the end of the text. -/
class Phrase (T : Type) where
  /-- The leaves from left to right. -/
  tokens : T → List Token
  text_ne : ∀ x, ∀ t ∈ tokens x, t.text ≠ ""

open Phrase (tokens)

/-- A sort of texts for leaves, none of which marks the end of the text. -/
class LeafSort (sort : String → Prop) : Prop where
  exists_text : ∃ text, sort text
  ne_empty : ∀ {text}, sort text → text ≠ ""

instance (c : Char) : LeafSort (· = String.singleton c) where
  exists_text := ⟨_, rfl⟩
  ne_empty h := by simp [h]

instance (k : Keyword) : LeafSort (· = k.text) where
  exists_text := ⟨_, rfl⟩
  ne_empty h := by cases k <;> simp [h, Keyword.text]

instance : LeafSort IsName where
  exists_text := ⟨"x", 'x', [], rfl, by simp [IsLetter], nofun⟩
  ne_empty := by
    rintro _ ⟨c, rest, h, -⟩ rfl
    simp at h

instance : LeafSort IsInteger where
  exists_text := ⟨"0", by simp [IsInteger, digitsOf, integerOf, IsDigit, decimal]⟩
  ne_empty := by
    rintro _ ⟨hne, -⟩ rfl
    exact hne rfl

instance : LeafSort IsWidth where
  exists_text := ⟨"u8", .inl rfl⟩
  ne_empty := by rintro _ (rfl | rfl | rfl | rfl) <;> decide

instance {sort : String → Prop} [LeafSort sort] : Phrase (Leaf sort) where
  tokens x := [x.token]
  text_ne x := by simpa using LeafSort.ne_empty x.isOf

instance {sort : String → Prop} [LeafSort sort] : Nonempty (Leaf sort) := by
  obtain ⟨text, h⟩ := (LeafSort.exists_text : ∃ text, sort text)
  exact ⟨⟨text, .start⟩, h⟩

section

variable {T U : Type} [Phrase T] [Phrase U]

instance : Phrase (Option T) where
  tokens
    | none => []
    | some x => tokens x
  text_ne x := by
    cases x with
    | none => simp
    | some x => exact Phrase.text_ne x

instance : Phrase (List T) where
  tokens xs := xs.flatMap tokens
  text_ne _ t ht := by
    obtain ⟨x, -, hx⟩ := List.mem_flatMap.1 ht
    exact Phrase.text_ne x t hx

instance : Phrase (T × U) where
  tokens x := tokens x.1 ++ tokens x.2
  text_ne x := List.forall_mem_append.2 ⟨Phrase.text_ne x.1, Phrase.text_ne x.2⟩

/-- Trees with the leaves of others. -/
abbrev Phrase.ofParts {S : Type} (parts : S → T) : Phrase S where
  tokens x := tokens (parts x)
  text_ne x := Phrase.text_ne (parts x)

end

instance : Phrase Suffix := .ofParts fun x => (x.left, x.len, x.right)

mutual

/-- The leaves of a type. -/
def TypeTree.tokens : TypeTree → List Token
  | .plain name suffixes => Phrase.tokens (name, suffixes)
  | .generic name left args suffixes =>
    Phrase.tokens (name, left) ++ args.tokens ++ Phrase.tokens suffixes

/-- The leaves of arguments. -/
def ArgsTree.tokens : ArgsTree → List Token
  | .last type right => type.tokens ++ Phrase.tokens right
  | .more type comma rest => type.tokens ++ Phrase.tokens comma ++ rest.tokens

end

mutual

/-- The tokens of a type are not empty. -/
theorem TypeTree.text_ne : (x : TypeTree) → ∀ t ∈ x.tokens, t.text ≠ ""
  | .plain name suffixes => Phrase.text_ne (name, suffixes)
  | .generic name left args suffixes =>
    List.forall_mem_append.2 ⟨List.forall_mem_append.2
      ⟨Phrase.text_ne (name, left), args.text_ne⟩, Phrase.text_ne suffixes⟩

theorem ArgsTree.text_ne : (x : ArgsTree) → ∀ t ∈ x.tokens, t.text ≠ ""
  | .last type right => List.forall_mem_append.2 ⟨type.text_ne, Phrase.text_ne right⟩
  | .more type comma rest =>
    List.forall_mem_append.2 ⟨List.forall_mem_append.2
      ⟨type.text_ne, Phrase.text_ne comma⟩, rest.text_ne⟩

end

instance : Phrase TypeTree := ⟨TypeTree.tokens, TypeTree.text_ne⟩
instance : Phrase ArgsTree := ⟨ArgsTree.tokens, ArgsTree.text_ne⟩
instance : Nonempty TypeTree := ⟨.plain (Classical.arbitrary _) []⟩
instance : Nonempty ArgsTree := ⟨.last (Classical.arbitrary _) (Classical.arbitrary _)⟩
instance : Phrase MemberTree := .ofParts fun x => (x.name, x.equals, x.value, x.semicolon)
instance : Phrase WidthTree := .ofParts fun x => (x.colon, x.width)
instance : Phrase EnumTree := .ofParts fun x => (x.name, x.width, x.left, x.members, x.right)
instance : Phrase FieldTree := .ofParts fun x => (x.type, x.name, x.semicolon)
instance : Phrase TagTree := .ofParts fun x => (x.equals, x.id)
instance : Phrase MarkerTree := .ofParts fun x => (x.left, x.word, x.right)
instance : Phrase MessageTree :=
  .ofParts fun x => (x.name, x.tag, x.marker, x.left, x.fields, x.right)

/-- The leaves of a path. -/
def PathTree.tokens : PathTree → List Token
  | last name => Phrase.tokens name
  | more name dot rest => Phrase.tokens (name, dot) ++ rest.tokens

/-- The tokens of a path are not empty. -/
theorem PathTree.text_ne (x : PathTree) : ∀ t ∈ x.tokens, t.text ≠ "" := by
  induction x with
  | last name => exact Phrase.text_ne name
  | more name dot rest ih => exact List.forall_mem_append.2 ⟨Phrase.text_ne (name, dot), ih⟩

instance : Phrase PathTree := ⟨PathTree.tokens, PathTree.text_ne⟩
instance : Nonempty PathTree := ⟨.last (Classical.arbitrary _)⟩

/-- The leaves of items. -/
def Items.tokens : Items → List Token
  | nil => []
  | block keyword path left inner right rest =>
    Phrase.tokens (keyword, path, left) ++ inner.tokens ++ Phrase.tokens right ++ rest.tokens
  | enum keyword decl rest => Phrase.tokens (keyword, decl) ++ rest.tokens
  | message keyword decl rest => Phrase.tokens (keyword, decl) ++ rest.tokens

/-- The tokens of items are not empty, so the end of the text is none of them. -/
theorem Items.text_ne (x : Items) : ∀ t ∈ x.tokens, t.text ≠ "" := by
  induction x with
  | nil => nofun
  | block keyword path left inner right rest ih ih' =>
    exact List.forall_mem_append.2 ⟨List.forall_mem_append.2 ⟨List.forall_mem_append.2
      ⟨Phrase.text_ne (keyword, path, left), ih⟩, Phrase.text_ne right⟩, ih'⟩
  | enum keyword decl rest ih =>
    exact List.forall_mem_append.2 ⟨Phrase.text_ne (keyword, decl), ih⟩
  | message keyword decl rest ih =>
    exact List.forall_mem_append.2 ⟨Phrase.text_ne (keyword, decl), ih⟩

instance : Phrase Items := ⟨Items.tokens, Items.text_ne⟩

/-! ### The leaves of each tree, written out -/

section

variable {T U : Type} [Phrase T] [Phrase U] {sort : String → Prop} [LeafSort sort]

@[simp]
theorem tokens_leaf (x : Leaf sort) : tokens x = [x.token] := rfl

@[simp]
theorem tokens_none : tokens (none : Option T) = [] := rfl

@[simp]
theorem tokens_some (x : T) : tokens (some x) = tokens x := rfl

@[simp]
theorem tokens_nil : tokens ([] : List T) = [] := rfl

@[simp]
theorem tokens_cons (x : T) (xs : List T) : tokens (x :: xs) = tokens x ++ tokens xs := rfl

/-- The tokens of a pair are those of the one and then those of the other. -/
@[simp]
theorem tokens_prod (x : T × U) : tokens x = tokens x.1 ++ tokens x.2 := rfl

end

/-- A suffix is a pair of brackets, with or without a length. -/
@[simp]
theorem tokens_suffix (x : Suffix) :
    tokens x = x.left.token :: (tokens x.len ++ [x.right.token]) := rfl

/-- A plain type is a name with suffixes. -/
@[simp]
theorem tokens_plain (name : Name) (suffixes : List Suffix) :
    tokens (TypeTree.plain name suffixes) = name.token :: tokens suffixes := rfl

/-- A type with arguments has them in angle brackets, in front of the suffixes. -/
@[simp]
theorem tokens_generic (name : Name) (left : Mark '<') (args : ArgsTree) (suffixes : List Suffix) :
    tokens (TypeTree.generic name left args suffixes) =
      name.token :: left.token :: (tokens args ++ tokens suffixes) := rfl

/-- The last argument closes the bracket. -/
@[simp]
theorem tokens_last (type : TypeTree) (right : Mark '>') :
    tokens (ArgsTree.last type right) = tokens type ++ [right.token] := rfl

/-- Arguments are separated by commas. -/
@[simp]
theorem tokens_more (type : TypeTree) (comma : Mark ',') (rest : ArgsTree) :
    tokens (ArgsTree.more type comma rest) = tokens type ++ comma.token :: tokens rest :=
  List.append_assoc _ _ _

/-- A member has a name and a value. -/
@[simp]
theorem tokens_member (x : MemberTree) :
    tokens x = [x.name.token, x.equals.token, x.value.token, x.semicolon.token] := rfl

/-- A width stands behind a colon. -/
@[simp]
theorem tokens_width (x : WidthTree) : tokens x = [x.colon.token, x.width.token] := rfl

/-- An enum has a name, a width if one is given, and its members in braces. -/
@[simp]
theorem tokens_enum (x : EnumTree) :
    tokens x = x.name.token :: (tokens x.width ++
      x.left.token :: (tokens x.members ++ [x.right.token])) := rfl

/-- A field is a type and a name. -/
@[simp]
theorem tokens_field (x : FieldTree) :
    tokens x = tokens x.type ++ [x.name.token, x.semicolon.token] := rfl

/-- An identifier stands behind an equals sign. -/
@[simp]
theorem tokens_tag (x : TagTree) : tokens x = [x.equals.token, x.id.token] := rfl

/-- A marker is its word in brackets. -/
@[simp]
theorem tokens_marker (x : MarkerTree) :
    tokens x = [x.left.token, x.word.token, x.right.token] := rfl

/-- A message has a name, an identifier and a marker if they are given, and its fields in braces. -/
@[simp]
theorem tokens_message (x : MessageTree) :
    tokens x = x.name.token :: (tokens x.tag ++ (tokens x.marker ++
      x.left.token :: (tokens x.fields ++ [x.right.token]))) := rfl

@[simp]
theorem tokens_lastName (name : Name) : tokens (PathTree.last name) = [name.token] := rfl

/-- The names of a path are separated by dots. -/
@[simp]
theorem tokens_moreNames (name : Name) (dot : Mark '.') (rest : PathTree) :
    tokens (PathTree.more name dot rest) = name.token :: dot.token :: tokens rest := rfl

@[simp]
theorem tokens_noItems : tokens Items.nil = [] := rfl

/-- A block has a path and items of its own in braces. -/
@[simp]
theorem tokens_blockItem (keyword : Word .scope) (path : PathTree) (left : Mark '\x7b')
    (inner : Items) (right : Mark '\x7d') (rest : Items) :
    tokens (Items.block keyword path left inner right rest) =
      keyword.token :: (tokens path ++
        left.token :: (tokens inner ++ right.token :: tokens rest)) := by
  change tokens (keyword, path, left) ++ tokens inner ++ tokens right ++ tokens rest = _
  simp

/-- An enum among items stands behind its keyword. -/
@[simp]
theorem tokens_enumItem (keyword : Word .enum) (decl : EnumTree) (rest : Items) :
    tokens (Items.enum keyword decl rest) = keyword.token :: (tokens decl ++ tokens rest) := rfl

/-- A message among items stands behind its keyword. -/
@[simp]
theorem tokens_messageItem (keyword : Word .message) (decl : MessageTree) (rest : Items) :
    tokens (Items.message keyword decl rest) = keyword.token :: (tokens decl ++ tokens rest) := rfl

/-- The tokens that are derived. -/
def Derivation.tokens (x : Derivation) : List Token :=
  Phrase.tokens x.items ++ [x.stop.token]

/-! ## What trees say -/

/-- The type with an array suffix behind it. -/
def Suffix.attach (type : TypeExpr) (x : Suffix) : TypeExpr :=
  .array type (x.len.map fun n => integerOf n.token.text)

mutual

/-- The type, where the first suffix is the innermost. -/
def TypeTree.type : TypeTree → TypeExpr
  | .plain name suffixes => suffixes.foldl Suffix.attach (.name name.token.text)
  | .generic name _ args suffixes =>
    suffixes.foldl Suffix.attach (.generic name.token.text args.types)

/-- The types of arguments. -/
def ArgsTree.types : ArgsTree → List TypeExpr
  | .last type _ => [type.type]
  | .more type _ rest => type.type :: rest.types

end

/-- The member of an enum, at the place of its name. -/
def MemberTree.decl (x : MemberTree) : MemberDecl :=
  ⟨x.name.token.text, x.name.token.position, integerOf x.value.token.text⟩

/-- The field of a message, at the place of its name. -/
def FieldTree.decl (x : FieldTree) : FieldDecl :=
  ⟨x.name.token.text, x.name.token.position, x.type.type⟩

/-- The names of a path. -/
def PathTree.names : PathTree → List String
  | last name => [name.token.text]
  | more name _ rest => name.token.text :: rest.names

/-- The dotted path of the namespaces with the given names, the outermost first. -/
def dotted (path : List String) : Option String :=
  if path.isEmpty then none else some (".".intercalate path)

/-- The enum inside namespaces with the given names. -/
def EnumTree.definition (path : List String) (x : EnumTree) : Definition where
  name := x.name.token.text
  scope := dotted path
  position := x.name.token.position
  body := .enum (x.width.map fun w => widthOf w.width.token.text) (x.members.map MemberTree.decl)

/-- The message inside namespaces with the given names. -/
def MessageTree.definition (path : List String) (x : MessageTree) : Definition where
  name := x.name.token.text
  scope := dotted path
  position := x.name.token.position
  body := .message (x.tag.map fun t => integerOf t.id.token.text) x.marker.isSome
    (x.fields.map FieldTree.decl)

/-- The definitions inside namespaces with the given names. -/
def Items.definitions (path : List String) : Items → List Definition
  | nil => []
  | block _ names _ inner _ rest =>
    inner.definitions (path ++ names.names) ++ rest.definitions path
  | enum _ decl rest => decl.definition path :: rest.definitions path
  | message _ decl rest => decl.definition path :: rest.definitions path

/-- All definitions. -/
def Derivation.definitions (x : Derivation) : List Definition :=
  x.items.definitions []

end WireSchema.Source
