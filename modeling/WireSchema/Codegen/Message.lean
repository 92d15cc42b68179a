import WireSchema.Codegen.Enum
import WireSchema.Schema.Valid

/-!
# Generated messages

The Rust code of a message: a struct, and the routines that write and read its fields in the order
of their declaration. An array is written and read by a closure for its elements; the reader of a
counted array is told the least size of an element.
-/

namespace WireSchema.Codegen

open WireSchema.Naming

/-! ## Types -/

/-- The type of a primitive in generated code. -/
def primitiveType : Primitive → String
  | .string => "String"
  | p => p.name

/-- The type of a kind in generated code. -/
def typeCode (s : Schema) : Kind → String
  | .primitive p => primitiveType p
  | .array element .counted => "Vec<" ++ typeCode s element ++ ">"
  | .array element (.fixed n) => "[" ++ typeCode s element ++ s!"; {n}]"
  | .named name =>
    match s.resolve? name with
    | some (.enumeration e) => "EnumValue<" ++ typeIdent e.name ++ ">"
    | _ => typeIdent name
  | .unsupported text => text

/-- Code that refuses to compile, for a kind that the wire cannot hold. -/
def refusal (text : String) : String :=
  "compile_error!(" ++ Text.jsonString ("unsupported field kind " ++ text) ++ ")"

/-! ## Writing -/

/-- How generated code reaches the value that it writes. -/
inductive Access
  /-- A field of the message. -/
  | field (ident : String)
  /-- The element that a closure is given. -/
  | item

/-- The value itself. -/
def Access.byValue : Access → String
  | field ident => "self." ++ ident
  | item => "*item"

/-- A reference to the value. -/
def Access.byRef : Access → String
  | field ident => "&self." ++ ident
  | item => "item"

/-- The value as the receiver of a call. -/
def Access.receiver : Access → String
  | field ident => "self." ++ ident
  | item => "item"

/-- The blanks in front of a line. -/
def pad (level : Nat) : String :=
  String.ofList (List.replicate (4 * level) ' ')

/-- The lines that write a value of a kind. -/
def writeLines (s : Schema) (access : Access) (level : Nat) : Kind → List String
  | .primitive .string => [pad level ++ s!"buf.write_string({access.byRef})?;"]
  | .primitive p => [pad level ++ s!"buf.write_{p.name}({access.byValue});"]
  | .named name =>
    match s.resolve? name with
    | some (.enumeration _) => [pad level ++ s!"buf.write_enum({access.byValue})?;"]
    | _ => [pad level ++ s!"{access.receiver}.encode(buf)?;"]
  | .array element len =>
    let method :=
      match len with
      | .counted => "write_vec"
      | .fixed _ => "write_array"
    [pad level ++ s!"buf.{method}({access.byRef}, |buf, item| \x7b"] ++
      writeLines s .item (level + 1) element ++
      [pad level ++ "    Ok(())", pad level ++ "\x7d)?;"]
  | .unsupported text => [pad level ++ refusal text ++ ";"]

/-! ## Reading -/

/-- The expression that reads a value of a kind. -/
def readCode (s : Schema) : Kind → String
  | .primitive p => s!"buf.read_{p.name}()"
  | .named name =>
    match s.resolve? name with
    | some (.enumeration _) => "buf.read_enum()"
    | _ => typeIdent name ++ "::decode(buf)"
  | .array element .counted =>
    s!"buf.read_vec({s.minSize element}, |buf| " ++ readCode s element ++ ")"
  | .array element (.fixed _) => "buf.read_array(|buf| " ++ readCode s element ++ ")"
  | .unsupported text => refusal text

/-! ## Messages -/

/-- The lines of the struct of a message. -/
def structLines (s : Schema) (m : Message) : List String :=
  let name := typeIdent m.name
  [s!"/// Message `{m.name}`, identifier {m.id.toNat}.",
   "#[derive(Debug, Clone, PartialEq)]"] ++
  if m.fields.isEmpty then [s!"pub struct {name} \x7b\x7d"]
  else
    [s!"pub struct {name} \x7b"] ++
    m.fields.map (fun f => s!"    pub {fieldIdent f.name}: {typeCode s f.kind},") ++
    ["\x7d"]

/-- The lines of the routine that writes a message. -/
def encodeLines (s : Schema) (m : Message) : List String :=
  let body :=
    if m.fields.isEmpty then ["        Ok(())"]
    else
      ["        buf.all_or_nothing(|buf| \x7b"] ++
      m.fields.flatMap (fun f => writeLines s (.field (fieldIdent f.name)) 3 f.kind) ++
      ["            Ok(())", "        \x7d)"]
  let buf := if m.fields.isEmpty then "_buf" else "buf"
  [s!"    fn encode(&self, {buf}: &mut WriteBuffer) -> Result<(), EncodeError> \x7b"] ++ body ++
    ["    \x7d"]

/-- The lines of the routine that reads a message. -/
def decodeLines (s : Schema) (m : Message) : List String :=
  let body :=
    if m.fields.isEmpty then ["        Ok(Self \x7b\x7d)"]
    else
      ["        Ok(Self \x7b"] ++
      m.fields.map (fun f => s!"            {fieldIdent f.name}: {readCode s f.kind}?,") ++
      ["        \x7d)"]
  let buf := if m.fields.isEmpty then "_buf" else "buf"
  [s!"    fn decode({buf}: &mut ReadBuffer<'_>) -> Result<Self, DecodeError> \x7b"] ++ body ++
    ["    \x7d"]

/-- The code of a message. -/
def messageCode (s : Schema) (m : Message) : String :=
  joinLines <|
    structLines s m ++
    ["",
     s!"impl NetMessage for {typeIdent m.name} \x7b",
     s!"    const ID: u32 = {m.id.toNat};",
     s!"    const NAME: &'static str = {Text.jsonString m.name};",
     ""] ++
    encodeLines s m ++ [""] ++ decodeLines s m ++ ["\x7d"]

end WireSchema.Codegen
