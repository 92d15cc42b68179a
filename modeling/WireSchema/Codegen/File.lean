import WireSchema.Codegen.Registry

/-!
# Generated files

A generated file is a header, the fragments of a schema with empty lines between them, and a footer.
Its text depends on nothing but the schema and the path of the runtime.
-/

namespace WireSchema.Codegen

/-- What generated code imports from its runtime. -/
def runtimeItems : List String :=
  ["DecodeError", "DispatchError", "EncodeError", "EnumValue", "IntWidth", "NetMessage",
   "ReadBuffer", "Registry", "RegistryEntry", "WireEnum", "WriteBuffer"]

/-- The code that imports the runtime. -/
def importCode (runtimePath : String) : String :=
  "#[allow(unused_imports)]\nuse " ++ runtimePath ++ "::\x7b" ++ ", ".intercalate runtimeItems ++
    "\x7d;"

/-- The fragments of a schema: imports, enums, messages and the registry. -/
def fragments (s : Schema) (runtimePath : String) : Except Problem (List String) := do
  let registry ← registryCode s
  return [importCode runtimePath] ++ s.enums.map enumCode ++ s.messages.map (messageCode s) ++
    [registry]

/-- The first line of a generated file. -/
def header : String := "// @generated by netmsgc. DO NOT EDIT."

/-- The last line of a generated file. -/
def footer : String := "// end of generated code"

/-- The text of a generated file. -/
def render (s : Schema) (parts : List String) : String :=
  let scope := s.model.scope.getD "(all)"
  header ++ "\n" ++
    s!"// namespace: {scope}\n" ++
    s!"// messages: {s.messages.length}, enums: {s.enums.length}\n" ++
    String.join (parts.map fun part => "\n" ++ part ++ "\n") ++
    "\n" ++ footer ++ "\n"

end WireSchema.Codegen
