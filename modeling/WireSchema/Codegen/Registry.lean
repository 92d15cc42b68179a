import WireSchema.Codegen.Message

/-!
# Generated registries

The Rust code of the union of all messages and of the table that finds their readers by identifier.
The table is sorted; two messages with one identifier would make it ambiguous.
-/

namespace WireSchema.Codegen

open WireSchema.Naming

/-- The messages of a schema sorted by identifier. -/
def registryTable (s : Schema) : List Message :=
  s.messages.mergeSort fun a b => decide (a.id ≤ b.id)

/-- Two neighbours with one identifier. -/
def ambiguity? : List Message → Option Problem
  | a :: b :: rest =>
    if a.id == b.id then some (.ambiguousRegistryEntry a.id a.name b.name)
    else ambiguity? (b :: rest)
  | _ => none

/-- The name of the function that reads a message for the table. -/
def readerName (m : Message) : String :=
  s!"decode_{snake (typeIdent m.name)}_{m.id.toNat}"

/-- A match over all messages with one arm each. -/
def matchLines (s : Schema) (arm : String → String) : List String :=
  if s.messages.isEmpty then ["        match *self \x7b\x7d"]
  else
    ["        match *self \x7b"] ++
    s.messages.map (fun m => "            " ++ arm (typeIdent m.name)) ++
    ["        \x7d"]

/-- The lines of the union of all messages. -/
def unionLines (s : Schema) : List String :=
  let buf := if s.messages.isEmpty then "_buf" else "buf"
  ["/// Any message known to this schema.",
   "#[derive(Debug, Clone, PartialEq)]",
   "pub enum AnyMessage \x7b"] ++
  s.messages.map (fun m => s!"    {typeIdent m.name}({typeIdent m.name}),") ++
  ["\x7d",
   "",
   "impl AnyMessage \x7b",
   "    pub fn id(&self) -> u32 \x7b"] ++
  matchLines s (fun name => s!"AnyMessage::{name}(_) => {name}::ID,") ++
  ["    \x7d",
   "",
   "    pub fn name(&self) -> &'static str \x7b"] ++
  matchLines s (fun name => s!"AnyMessage::{name}(_) => {name}::NAME,") ++
  ["    \x7d",
   "",
   s!"    pub fn encode(&self, {buf}: &mut WriteBuffer) -> Result<(), EncodeError> \x7b"] ++
  matchLines s (fun name => s!"AnyMessage::{name}(ref message) => message.encode(buf),") ++
  ["    \x7d",
   "",
   "    pub fn to_bytes(&self) -> Result<Vec<u8>, EncodeError> \x7b",
   "        let mut buf = WriteBuffer::new();",
   "        self.encode(&mut buf)?;",
   "        Ok(buf.data())",
   "    \x7d",
   "",
   "    /// Decodes the message registered under `id`.",
   "    pub fn decode(id: u32, buf: &mut ReadBuffer<'_>) -> Result<Self, DispatchError> \x7b",
   "        REGISTRY.decode(id, buf)",
   "    \x7d",
   "",
   "    pub fn from_bytes(id: u32, bytes: &[u8]) -> Result<Self, DispatchError> \x7b",
   "        REGISTRY.decode_frame(id, bytes)",
   "    \x7d",
   "\x7d"]

/-- The lines that put a message into the union. -/
def conversionLines (m : Message) : List String :=
  let name := typeIdent m.name
  ["",
   s!"impl From<{name}> for AnyMessage \x7b",
   s!"    fn from(message: {name}) -> Self \x7b",
   s!"        AnyMessage::{name}(message)",
   "    \x7d",
   "\x7d"]

/-- The lines of the function that reads a message for the table. -/
def readerLines (m : Message) : List String :=
  let name := typeIdent m.name
  ["",
   s!"fn {readerName m}(buf: &mut ReadBuffer<'_>) -> Result<AnyMessage, DecodeError> \x7b",
   s!"    {name}::decode(buf).map(AnyMessage::{name})",
   "\x7d"]

/-- The row of a message in the table. -/
def rowLine (m : Message) : String :=
  s!"    RegistryEntry \x7b id: {m.id.toNat}, name: {Text.jsonString m.name}, " ++
    s!"decode: {readerName m} \x7d,"

/-- The lines of the table. -/
def tableLines (table : List Message) : List String :=
  ["",
   s!"static REGISTRY_ENTRIES: [RegistryEntry<AnyMessage>; {table.length}] = ["] ++
  table.map rowLine ++
  ["];",
   "",
   "/// Identifier to decoder table, sorted by identifier.",
   "pub static REGISTRY: Registry<AnyMessage> = Registry::new(&REGISTRY_ENTRIES);"]

/-- The code of the registry. -/
def registryCode (s : Schema) : Except Problem String :=
  let table := registryTable s
  match ambiguity? table with
  | some p => .error p
  | none =>
    .ok <| joinLines <|
      unionLines s ++ s.messages.flatMap conversionLines ++ table.flatMap readerLines ++
        tableLines table

end WireSchema.Codegen
