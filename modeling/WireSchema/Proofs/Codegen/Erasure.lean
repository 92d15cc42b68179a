import WireSchema.Codegen.File
import WireSchema.Proofs.Schema.Erasure

/-!
# Places are not in the code

The code that is generated from a schema is that of the schema without its places and without the
namespaces of its definitions (`fragments_erase`, `render_erase`).
-/

namespace WireSchema

/-! ## Names and sizes -/

/-- What a name stands for, without its place and namespace. -/
def TypeRef.erase : TypeRef → TypeRef
  | message m => message m.erase
  | enumeration e => enumeration e.erase

/-- Without places, a name stands for the same enum without its place. -/
theorem Model.enumeration?_erase (model : Model) (name : String) :
    model.erase.enumeration? name = (model.enumeration? name).map Enumeration.erase :=
  lookUp?_map fun _ => rfl

/-- Without places, a name stands for the same definition without its place. -/
theorem Model.resolve?_erase (model : Model) (name : String) :
    model.erase.resolve? name = (model.resolve? name).map TypeRef.erase := by
  simp only [resolve?, message?_erase, enumeration?_erase]
  cases model.message? name with
  | none => cases model.enumeration? name <;> rfl
  | some m => rfl

/-- The least size of a type does not depend on where things are declared. -/
theorem Model.nameMinSize_erase (model : Model) (depth : Nat) (name : String) :
    model.erase.nameMinSize depth name = model.nameMinSize depth name := by
  induction depth generalizing name with
  | zero => rfl
  | succ depth ih =>
    have hnamed : model.erase.nameMinSize depth = model.nameMinSize depth := funext ih
    simp only [nameMinSize, resolve?_erase, hnamed]
    cases model.resolve? name with
    | none => rfl
    | some ref =>
      cases ref with
      | message m => simp [TypeRef.erase, List.foldl_map]
      | enumeration e => simp [TypeRef.erase]

namespace Schema

variable (s : Schema)

@[simp]
theorem erase_messages : s.erase.messages = s.messages.map Message.erase := rfl

@[simp]
theorem erase_enums : s.erase.enums = s.enums.map Enumeration.erase := rfl

/-- A schema without its places knows the same definitions, without theirs. -/
theorem resolve?_erase (name : String) :
    s.erase.resolve? name = (s.resolve? name).map TypeRef.erase :=
  s.model.resolve?_erase name

/-- The least size of a kind is the same without places. -/
@[simp]
theorem erase_minSize (kind : Kind) : s.erase.minSize kind = s.minSize kind := by
  have hnamed : s.erase.model.nameMinSize (s.messages.length + 1) =
      s.model.nameMinSize (s.messages.length + 1) := funext (s.model.nameMinSize_erase _)
  simp [minSize, hnamed]

end Schema

namespace Codegen

/-! ## Enums and messages -/

variable (s : Schema)

/-- The code of an enum does not mention its place or its namespace. -/
theorem enumCode_erase (e : Enumeration) : enumCode e.erase = enumCode e := by
  simp only [enumCode, Enumeration.erase_name, Enumeration.erase_wireWidth,
    Enumeration.erase_members, List.map_map]
  rfl

/-- The type of a field is written the same without places. -/
theorem typeCode_erase (kind : Kind) : typeCode s.erase kind = typeCode s kind := by
  induction kind with
  | primitive p => simp only [typeCode]
  | array element len ih => cases len <;> simp only [typeCode, ih]
  | named name =>
    simp only [typeCode, Schema.resolve?_erase]
    cases s.resolve? name with
    | none => simp only [Option.map_none]
    | some ref => cases ref <;> simp only [Option.map_some, TypeRef.erase, Enumeration.erase_name]
  | unsupported text => simp only [typeCode]

/-- The lines that write a value are the same without places. -/
theorem writeLines_erase (access : Access) (level : Nat) (kind : Kind) :
    writeLines s.erase access level kind = writeLines s access level kind := by
  induction kind generalizing access level with
  | primitive p => cases p <;> simp only [writeLines]
  | array element len ih => simp only [writeLines, ih]
  | named name =>
    simp only [writeLines, Schema.resolve?_erase]
    cases s.resolve? name with
    | none => simp only [Option.map_none]
    | some ref => cases ref <;> simp only [Option.map_some, TypeRef.erase]
  | unsupported text => simp only [writeLines]

/-- The code that reads a named type depends only on whether the name is that of an enum. -/
theorem readCode_named (name : String) :
    readCode s (.named name) =
      match s.resolve? name with
      | some (.enumeration _) => "buf.read_enum()"
      | _ => Naming.typeIdent name ++ "::decode(buf)" :=
  rfl

theorem readCode_counted (element : Kind) :
    readCode s (.array element .counted) =
      s!"buf.read_vec({s.minSize element}, |buf| " ++ readCode s element ++ ")" :=
  rfl

theorem readCode_fixed (element : Kind) (n : Nat) :
    readCode s (.array element (.fixed n)) = "buf.read_array(|buf| " ++ readCode s element ++ ")" :=
  rfl

/-- The code that reads a value is the same without places. -/
theorem readCode_erase (kind : Kind) : readCode s.erase kind = readCode s kind := by
  induction kind with
  | primitive p => rfl
  | array element len ih =>
    cases len with
    | counted => rw [readCode_counted, readCode_counted, ih, Schema.erase_minSize]
    | fixed n => rw [readCode_fixed, readCode_fixed, ih]
  | named name =>
    rw [readCode_named, readCode_named, Schema.resolve?_erase]
    cases s.resolve? name with
    | none => simp only [Option.map_none]
    | some ref => cases ref <;> simp only [Option.map_some, TypeRef.erase]
  | unsupported text => rfl

/-- The code of a message does not mention its place or its namespace. -/
theorem messageCode_erase (m : Message) : messageCode s.erase m.erase = messageCode s m := by
  have hstruct : structLines s.erase m.erase = structLines s m := by
    simp [structLines, typeCode_erase, Function.comp_def]
  have hencode : encodeLines s.erase m.erase = encodeLines s m := by
    simp [encodeLines, writeLines_erase, List.flatMap_map]
  have hdecode : decodeLines s.erase m.erase = decodeLines s m := by
    simp [decodeLines, readCode_erase, Function.comp_def]
  simp [messageCode, hstruct, hencode, hdecode]

/-! ## The registry -/

/-- The table of the registry has the same messages in the same order, without their places. -/
theorem registryTable_erase : registryTable s.erase = (registryTable s).map Message.erase := by
  rw [registryTable, registryTable, List.map_mergeSort (s := fun a b => decide (a.id ≤ b.id))]
  · rfl
  · intros
    rfl

/-- Whether two rows of a table share an identifier is not a matter of places. -/
theorem ambiguity?_erase (table : List Message) :
    ambiguity? (table.map Message.erase) = ambiguity? table := by
  induction table with
  | nil => rfl
  | cons a table ih =>
    cases table with
    | nil => rfl
    | cons b table =>
      simp only [List.map_cons] at ih
      simp [ambiguity?, ih]

theorem unionLines_erase : unionLines s.erase = unionLines s := by
  have hmatch (arm : String → String) : matchLines s.erase arm = matchLines s arm := by
    simp [matchLines, Function.comp_def]
  simp [unionLines, hmatch, Function.comp_def]

theorem tableLines_erase (table : List Message) :
    tableLines (table.map Message.erase) = tableLines table := by
  have hrow : rowLine ∘ Message.erase = rowLine := rfl
  simp [tableLines, hrow]

/-- The code of the registry is the same without places. -/
theorem registryCode_erase : registryCode s.erase = registryCode s := by
  have hreader (m : Message) : readerLines m.erase = readerLines m := rfl
  have hconversion (m : Message) : conversionLines m.erase = conversionLines m := rfl
  simp only [registryCode, registryTable_erase, ambiguity?_erase, unionLines_erase,
    tableLines_erase, Schema.erase_messages, List.flatMap_map, hreader, hconversion]

/-! ## Files -/

/-- A schema without its places gives the same parts of code. -/
theorem fragments_erase (runtimePath : String) :
    fragments s.erase runtimePath = fragments s runtimePath := by
  simp [fragments, registryCode_erase, enumCode_erase, messageCode_erase, Function.comp_def]

/-- The text of the file is the same without places. -/
theorem render_erase (parts : List String) : render s.erase parts = render s parts := by
  have hscope : s.erase.model.scope = s.model.scope := rfl
  simp only [render, hscope, Schema.erase_messages, Schema.erase_enums, List.length_map]

end Codegen

end WireSchema
