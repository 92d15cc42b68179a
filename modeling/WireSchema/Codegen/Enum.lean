import WireSchema.Naming
import WireSchema.Schema.Model

/-!
# Generated enums

The Rust code of an enum: the type itself and how its members map to integers.
-/

namespace WireSchema.Codegen

open WireSchema.Naming

/-- Lines of code as one text. -/
def joinLines (lines : List String) : String :=
  "\n".intercalate lines

/-- The name of a width in generated code. -/
def widthTag : Width → String
  | .w8 => "W8"
  | .w16 => "W16"
  | .w32 => "W32"
  | .w64 => "W64"

/-- The code of an enum. -/
def enumCode (e : Enumeration) : String :=
  let name := typeIdent e.name
  let width := e.wireWidth
  joinLines <|
    ["#[derive(Debug, Clone, Copy, PartialEq, Eq, Hash)]",
     s!"#[repr({width.unsignedName})]",
     s!"pub enum {name} \x7b"] ++
    e.members.map (fun m => s!"    {typeIdent m.name} = {m.value},") ++
    ["\x7d",
     "",
     s!"impl WireEnum for {name} \x7b",
     s!"    const NAME: &'static str = {Text.jsonString e.name};",
     s!"    const WIDTH: IntWidth = IntWidth::{widthTag width};",
     "",
     "    fn to_value(self) -> u64 \x7b",
     "        self as u64",
     "    \x7d",
     "",
     "    fn from_value(value: u64) -> Option<Self> \x7b",
     "        match value \x7b"] ++
    e.members.map (fun m => s!"            {m.value} => Some({name}::{typeIdent m.name}),") ++
    ["            _ => None,",
     "        \x7d",
     "    \x7d",
     "\x7d"]

end WireSchema.Codegen
