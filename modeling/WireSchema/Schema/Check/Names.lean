import WireSchema.Naming
import WireSchema.Schema.Problem

/-!
# Checks of names and enums

Generated code has one name space for types and one for the fields of each message. Names are
compared as generated code spells them, so two names that differ in the schema can still collide.
Enums have members, whose names and values are distinct and whose values fit the enum's width.
-/

namespace WireSchema

open WireSchema.Naming

/-! ## Types -/

/-- Names that generated code defines or imports itself. -/
def reservedNames : List String :=
  ["AnyMessage", "REGISTRY", "NetMessage", "WireEnum", "EnumValue", "ReadBuffer", "WriteBuffer",
   "DecodeError", "EncodeError", "DispatchError", "IntWidth", "Registry", "RegistryEntry", "Option",
   "Result", "Vec", "String", "Box", "Self"]

/-- Does a type name collide with one that generated code needs itself? -/
def isReserved (name : String) : Bool :=
  reservedNames.contains (typeIdent name) || reservedNames.contains name

/-- The names of all types of a model, enums first. -/
def Model.typeNames (model : Model) : List (String × Location) :=
  model.enums.map (fun e => (e.name, e.location)) ++
    model.messages.map (fun m => (m.name, m.location))

/-- The problems of type names, where `seen` holds the identifiers that are taken. -/
def typeNameProblems (seen : List (String × Location)) : List (String × Location) → List Problem
  | [] => []
  | (name, location) :: rest =>
    if isReserved name then .reservedTypeName name location :: typeNameProblems seen rest
    else
      match seen.lookup (typeIdent name) with
      | some first => .duplicateTypeName name location first :: typeNameProblems seen rest
      | none => typeNameProblems ((typeIdent name, location) :: seen) rest

/-! ## Fields -/

/-- The problems of the field names of a message, where `seen` holds the identifiers that are
    taken. -/
def fieldNameProblems (owner : String) (seen : List (String × String)) : List Field → List Problem
  | [] => []
  | f :: rest =>
    match seen.lookup (fieldIdent f.name) with
    | some first =>
      .duplicateFieldName owner first f.name (fieldIdent f.name) f.location ::
        fieldNameProblems owner seen rest
    | none => fieldNameProblems owner ((fieldIdent f.name, f.name) :: seen) rest

/-! ## Enums -/

/-- Does a value fit a width? -/
def fitsWidth (w : Width) (value : Int) : Bool :=
  0 ≤ value && value ≤ w.unsignedMax

/-- The problems of the members of an enum, where `names` and `values` hold those that are taken. -/
def memberProblems (e : Enumeration) (names : List (String × String))
    (values : List (Int × String)) : List Member → List Problem
  | [] => []
  | m :: rest =>
    let ident := typeIdent m.name
    (match names.lookup ident with
      | some first => [.duplicateFieldName e.name first m.name ident m.location]
      | none => []) ++
    (if fitsWidth e.wireWidth m.value then []
      else [.enumValueOutOfRange e.name m.name m.value e.wireWidth m.location]) ++
    (match values.lookup m.value with
      | some first => [.duplicateEnumValue e.name m.name first m.value m.location]
      | none => []) ++
    memberProblems e
      (if (names.lookup ident).isSome then names else (ident, m.name) :: names)
      (if (values.lookup m.value).isSome then values else (m.value, m.name) :: values)
      rest

/-- The problems of an enum. -/
def enumProblems (e : Enumeration) : List Problem :=
  if e.members.isEmpty then [.emptyEnum e.name e.location]
  else memberProblems e [] [] e.members

end WireSchema
