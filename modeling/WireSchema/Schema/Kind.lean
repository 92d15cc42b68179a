import WireSchema.Source.Definition

/-!
# Field kinds

The kind of a field says how its values look on the wire. A written type becomes a kind without a
look at the definitions: names of primitives are primitives, every other name is looked up later,
and what the wire cannot hold is kept as it is written, so that it can be reported.
-/

namespace WireSchema

open WireSchema.Source

/-- A kind without parts. -/
inductive Primitive
  /-- An integer of fixed width. -/
  | int (type : IntType)
  /-- A floating-point number of 32 bits. -/
  | single
  /-- A floating-point number of 64 bits. -/
  | double
  /-- A truth value. -/
  | bool
  /-- A text. -/
  | string
deriving DecidableEq

namespace Primitive

/-- All primitives. -/
def all : List Primitive :=
  [.int ⟨false, .w8⟩, .int ⟨false, .w16⟩, .int ⟨false, .w32⟩, .int ⟨false, .w64⟩,
   .int ⟨true, .w8⟩, .int ⟨true, .w16⟩, .int ⟨true, .w32⟩, .int ⟨true, .w64⟩,
   .single, .double, .bool, .string]

/-- The name of a primitive in schema text. -/
def name : Primitive → String
  | int type => type.name
  | single => "f32"
  | double => "f64"
  | bool => "bool"
  | string => "string"

/-- The primitive with a given name. -/
def ofName? (s : String) : Option Primitive :=
  all.find? fun p => p.name == s

/-- The integer type of a primitive, if it is one. -/
def intType? : Primitive → Option IntType
  | int type => some type
  | _ => none

/-- The least number of bytes that a value takes. A text has at least its length prefix. -/
def minSize : Primitive → Nat
  | int type => type.width.bytes
  | single => 4
  | double => 8
  | bool => 1
  | string => 4

end Primitive

/-- The length of an array. -/
inductive ArrayLen
  /-- The kind fixes the length. -/
  | fixed (n : Nat)
  /-- A count in front of the elements says the length. -/
  | counted
deriving DecidableEq

/-- The kind of a field. -/
inductive Kind
  /-- A kind without parts. -/
  | primitive (p : Primitive)
  /-- An array of elements of one kind. -/
  | array (element : Kind) (len : ArrayLen)
  /-- An enum or a message, by its name. -/
  | named (name : String)
  /-- A type that the wire cannot hold, as it is written. -/
  | unsupported (text : String)
deriving DecidableEq

namespace Kind

/-- The kind of the innermost elements. -/
def base : Kind → Kind
  | array element _ => element.base
  | k => k

/-- The text of a kind. -/
def toText : Kind → String
  | primitive p => p.name
  | array element .counted => element.toText ++ "[]"
  | array element (.fixed n) => element.toText ++ s!"[{n}]"
  | named name => name
  | unsupported text => text

/-- The kind that a written type stands for. -/
def ofType : TypeExpr → Kind
  | .name n =>
    match Primitive.ofName? n with
    | some p => primitive p
    | none => named n
  | .generic n args => unsupported (TypeExpr.generic n args).toText
  | .array element none => array (ofType element) .counted
  | .array element (some n) =>
    if n < 0 then unsupported (TypeExpr.array element (some n)).toText
    else array (ofType element) (.fixed n.toNat)

end Kind

end WireSchema
