import WireSchema.Proofs.Schema.Resolve
import WireSchema.Proofs.Session.Split

/-!
# What names in a text mean

A text that is accepted defines each of its names once, so a name stands for its definition wherever
it is looked up. A written type is not always looked up, though: a name that a primitive has is that
primitive, and a definition of the same name is out of reach (`kind_of_written_name`).
-/

namespace WireSchema

open WireSchema.Source

/-! ## Schemas of single texts -/

/-- A schema is compiled from a text exactly if it is the model of what the text says. -/
theorem compileText_eq_ok_iff {text : String} {schema : Schema} :
    compileText text = .ok schema ↔
      ∃ file, parse text "<input>" = .ok file ∧ schema.model = .extract [file] none none := by
  let start : Session := .start {} (.empty [])
  cases hparse : parse text "<input>" with
  | error e =>
    have hadd : addSource "<input>" text start = .error (.parse "<input>" e) start := by
      rw [addSource, hparse]
      rfl
    rw [compileText, Run.bind_of_error hadd]
    simp
  | ok file =>
    obtain ⟨s, hadd, hoptions, hsources⟩ := addSource_of_parse hparse start
    have hmodel : s.model = .extract [file] none none := by
      rw [Session.model, hoptions, hsources]
      rfl
    have hrun : compileText text = .ok schema ↔ ∃ s', validate s = .ok schema s' := by
      rw [compileText, Run.bind_of_ok hadd]
      cases validate s <;> simp
    rw [hrun, validate_eq_ok_iff, hmodel]
    simp

/-- What can be seen of a schema tells that it is compiled. -/
theorem exists_schema_of_view {α : Type} {view : Schema → α} {text : String} {a : α}
    (h : (compileText text).toOption.map view = some a) :
    ∃ schema, compileText text = .ok schema ∧ view schema = a :=
  exists_ok_of_view h

/-! ## Types that are written -/

/-- The name that a type is written with, where it is a plain name or an array of such. -/
def Source.TypeExpr.plainName? : TypeExpr → Option String
  | .name n => some n
  | .generic _ _ => none
  | .array element _ => element.plainName?

/-- A primitive type is found under its own name only. -/
theorem Primitive.ofName?_eq_some_iff {name : String} {p : Primitive} :
    ofName? name = some p ↔ p.name = name := by
  refine ⟨fun h => eq_of_beq (List.find?_some h :), ?_⟩
  rintro rfl
  have hnames : (all.map name).Nodup := by decide
  have hmem : p ∈ all := by
    cases p with
    | int type =>
      obtain ⟨signed, width⟩ := type
      cases signed <;> cases width <;> decide
    | single | double | bool | string => decide
  exact find?_key_of_nodup hnames hmem

/-- Under the arrays of a supported type is the kind of its name. -/
theorem Kind.base_ofType {type : TypeExpr} {name : String} (hname : type.plainName? = some name)
    (hparts : ∀ k ∈ (ofType type).parts, k.Supported) :
    (ofType type).base = ofType (.name name) := by
  fun_induction ofType type with
  | case1 n p hp =>
    cases hname
    rw [ofType, hp, base]
    nofun
  | case2 n hp =>
    cases hname
    rw [ofType, hp, base]
    nofun
  | case3 => cases hname
  | case4 element ih => exact ih hname fun k hk => hparts k (List.mem_cons_of_mem _ hk)
  | case5 element n hn => exact (hparts _ List.mem_cons_self).elim
  | case6 element n hn ih => exact ih hname fun k hk => hparts k (List.mem_cons_of_mem _ hk)

/-- A name stands for a definition unless a primitive type has it. -/
theorem Kind.base_ofType_iff {type : TypeExpr} {name : String}
    (hname : type.plainName? = some name) (hparts : ∀ k ∈ (ofType type).parts, k.Supported) :
    ((ofType type).base = .named name ↔ ∀ p : Primitive, p.name ≠ name) ∧
      ∀ p : Primitive, p.name = name → (ofType type).base = .primitive p := by
  rw [base_ofType hname hparts, ofType]
  simp only [ne_eq, ← Primitive.ofName?_eq_some_iff]
  cases Primitive.ofName? name with
  | none => simp
  | some p => simp

/-! ## Definitions -/

/-- The type that a definition makes in the model of its source. A draft makes none. -/
def Source.Definition.typeRef? (source : String) (d : Definition) : Option TypeRef :=
  match d.body with
  | .enum width members => some (.enumeration (extractEnum source d width members))
  | .message (some id) marker fields => some (.message (extractMessage source d id marker fields))
  | .message none _ _ => none

/-- The fields of a definition, if it is a message with an identifier. -/
def Source.Definition.taggedFields (d : Definition) : List FieldDecl :=
  match d.body with
  | .message (some _) _ fields => fields
  | _ => []

section

variable {file : SourceFile} {schema : Schema} (hmodel : schema.model = .extract [file] none none)
include hmodel

/-- Every enum of the text is one of the schema. -/
theorem mem_enums_of_body {d : Definition} (hd : d ∈ file.definitions) {width : Option Width}
    {members : List MemberDecl} (hbody : d.body = .enum width members) :
    extractEnum file.name d width members ∈ schema.enums := by
  rw [Schema.enums, hmodel]
  simp only [Model.extract, List.flatMap_singleton, enumsIn, recognizedIn, List.mem_filterMap]
  exact ⟨d, List.mem_filter.2 ⟨hd, by cases d.scope <;> rfl⟩, by simp [hbody]⟩

/-- Every message of the text that has an identifier is one of the schema. -/
theorem mem_messages_of_body {d : Definition} (hd : d ∈ file.definitions) {id : Int} {marker : Bool}
    {fields : List FieldDecl} (hbody : d.body = .message (some id) marker fields) :
    extractMessage file.name d id marker fields ∈ schema.messages := by
  rw [Schema.messages, hmodel]
  simp only [Model.extract, List.flatMap_singleton, messagesIn, recognizedIn, List.mem_filterMap]
  exact ⟨d, List.mem_filter.2 ⟨hd, by cases d.scope <;> rfl⟩, by simp [hbody]⟩

/-- A name stands for the definition that has it. -/
theorem resolve?_of_typeRef? {d : Definition} (hd : d ∈ file.definitions) {type : TypeRef}
    (htype : d.typeRef? file.name = some type) : schema.resolve? d.name = some type := by
  rw [Definition.typeRef?] at htype
  split at htype
  · next hbody =>
    cases htype
    exact Schema.resolve?_enumeration_of_mem (mem_enums_of_body hmodel hd hbody)
  · next hbody =>
    cases htype
    exact Schema.resolve?_of_mem (mem_messages_of_body hmodel hd hbody)
  · cases htype

/-- A written field makes a field of the message. Where its type is written with a plain name, the
    field refers to what has this name unless a primitive has it. -/
theorem exists_field_of_plainName {d : Definition} (hd : d ∈ file.definitions) {i : Nat}
    {f : FieldDecl} (hf : d.taggedFields[i]? = some f) {name : String}
    (hname : f.type.plainName? = some name) :
    ∃ (m : Message) (field : Field), schema.resolve? d.name = some (.message m) ∧
      m.fields[i]? = some field ∧
      (field.kind.base = .named name ↔ ∀ p : Primitive, p.name ≠ name) ∧
      ∀ p : Primitive, p.name = name → field.kind.base = .primitive p := by
  rw [Definition.taggedFields] at hf
  split at hf
  · next id marker fields hbody =>
    have hm := mem_messages_of_body hmodel hd hbody
    have hfield : (extractMessage file.name d id marker fields).fields[i]? =
        some ⟨f.name, .ofType f.type, i, .of file.name f.position⟩ := by
      simp [extractMessage, hf]
    have hparts := schema.wellFormed.parts_supported _ hm _ (List.mem_of_getElem? hfield)
    exact ⟨_, _, Schema.resolve?_of_mem hm, hfield, Kind.base_ofType_iff hname hparts⟩
  · cases hf

end

/-- In a text that is accepted, a name stands for the definition that has it. A field whose type is
    written with this name, as it is or as the innermost element of arrays, refers to the definition
    exactly if no primitive has the name too; else it is a field of that primitive. -/
theorem kind_of_written_name {text : String} {schema : Schema} (h : compileText text = .ok schema) :
    ∃ file, parse text "<input>" = .ok file ∧
      ∀ d ∈ file.definitions, ∀ type, d.typeRef? file.name = some type →
        schema.resolve? d.name = some type ∧
        ∀ d' ∈ file.definitions, ∀ (i : Nat) (f : FieldDecl), d'.taggedFields[i]? = some f →
          f.type.plainName? = some d.name →
          ∃ (m : Message) (field : Field), schema.resolve? d'.name = some (.message m) ∧
            m.fields[i]? = some field ∧
            (field.kind.base = .named d.name ↔ ∀ p : Primitive, p.name ≠ d.name) ∧
            ∀ p : Primitive, p.name = d.name → field.kind.base = .primitive p := by
  obtain ⟨file, hparse, hmodel⟩ := compileText_eq_ok_iff.1 h
  refine ⟨file, hparse, fun d hd type htype => ⟨resolve?_of_typeRef? hmodel hd htype, ?_⟩⟩
  intro d' hd' i f hf hname
  exact exists_field_of_plainName hmodel hd' hf hname

/-! ## Two texts -/

/-- Does a source define a name, and is the type of the first field of a message written with it? -/
def usesName (name user : String) (file : SourceFile) : Bool :=
  file.definitions.any (fun d => d.name == name && (d.typeRef? file.name).isSome) &&
    file.definitions.any fun d =>
      d.name == user && (d.taggedFields[0]?.bind (·.type.plainName?)) == some name

/-- A text that compiles and uses a name has a definition of the name and a field written with
    it. -/
theorem exists_of_usesName {text name user : String}
    (hok : (compileText text).toOption.map (fun _ => ()) = some ())
    (huses : (parse text "<input>").map (usesName name user) = .ok true) :
    ∃ schema file, compileText text = .ok schema ∧ parse text "<input>" = .ok file ∧
      ∃ d ∈ file.definitions, ∃ d' ∈ file.definitions, ∃ type f, d.name = name ∧ d'.name = user ∧
        d.typeRef? file.name = some type ∧ d'.taggedFields[0]? = some f ∧
        f.type.plainName? = some d.name := by
  obtain ⟨file, hparse, hfile⟩ := exists_parse_of_view huses
  simp only [usesName, Bool.and_eq_true, List.any_eq_true, beq_iff_eq] at hfile
  obtain ⟨⟨d, hd, hname, htype⟩, d', hd', huser, hfield⟩ := hfile
  obtain ⟨type, htype⟩ := Option.isSome_iff_exists.1 htype
  obtain ⟨f, hf, hplain⟩ := Option.bind_eq_some_iff.1 hfield
  obtain ⟨schema, hschema, -⟩ := exists_schema_of_view hok
  exact ⟨schema, file, hschema, hparse, d, hd, d', hd', type, f, hname, huser, htype, hf,
    hname ▸ hplain⟩

/-- A text with an enum and a message that holds counted arrays of it. -/
def shadesText : String :=
  "enum Color \x7b Red = 0; \x7d message Shades = 1 \x7b Color[3][] rows; \x7d"

/-- The name of an enum stands for it inside two arrays as well. -/
theorem kind_of_written_name_shadesText :
    ∃ (schema : Schema) (type : TypeRef) (m : Message) (field : Field),
      compileText shadesText = .ok schema ∧ schema.resolve? "Color" = some type ∧
      schema.resolve? "Shades" = some (.message m) ∧ m.fields[0]? = some field ∧
      field.kind.base = .named "Color" := by
  have hok : (compileText shadesText).toOption.map (fun _ => ()) = some () := by decide +kernel
  have huses : (parse shadesText "<input>").map (usesName "Color" "Shades") = .ok true := by
    decide +kernel
  obtain ⟨schema, file, hschema, hparse, d, hd, d', hd', type, f, hcolor, hshades, htype, hf,
    hname⟩ := exists_of_usesName hok huses
  obtain ⟨_, hparse', hmeaning⟩ := kind_of_written_name hschema
  cases hparse.symm.trans hparse'
  obtain ⟨hresolve, hfields⟩ := hmeaning d hd type htype
  obtain ⟨m, field, hm, hfield, hnamed, -⟩ := hfields d' hd' 0 f hf hname
  have hfree : ∀ p : Primitive, p.name ≠ d.name := by
    intro p hp
    cases Primitive.ofName?_eq_some_iff.2 (hp.trans hcolor)
  rw [hcolor] at hresolve
  rw [hshades] at hm
  exact ⟨schema, type, m, field, hschema, hresolve, hm, hfield, hcolor ▸ hnamed.2 hfree⟩

/-- A text with an enum that has the name of a primitive, and a message with a field that is written
    with the name. -/
def raisedText : String :=
  "enum bool : u16 \x7b Off = 0; On = 1; \x7d message Flag = 1 \x7b bool raised; \x7d"

/-- A definition with the name of a primitive is accepted and can be looked up, but a field that is
    written with its name does not refer to it. -/
theorem primitive_hides_definition :
    ∃ schema file, compileText raisedText = .ok schema ∧ parse raisedText "<input>" = .ok file ∧
      ∃ d ∈ file.definitions, ∃ d' ∈ file.definitions, ∃ (type : TypeRef) (f : FieldDecl),
        d.typeRef? file.name = some type ∧ d'.taggedFields[0]? = some f ∧
        f.type.plainName? = some d.name ∧ schema.resolve? d.name = some type ∧
        ∃ (m : Message) (field : Field), schema.resolve? d'.name = some (.message m) ∧
          m.fields[0]? = some field ∧ field.kind.base = .primitive .bool ∧
          field.kind.base ≠ .named d.name := by
  have hok : (compileText raisedText).toOption.map (fun _ => ()) = some () := by decide +kernel
  have huses : (parse raisedText "<input>").map (usesName "bool" "Flag") = .ok true := by
    decide +kernel
  obtain ⟨schema, file, hschema, hparse, d, hd, d', hd', type, f, hbool, -, htype, hf, hname⟩ :=
    exists_of_usesName hok huses
  obtain ⟨_, hparse', hmodel⟩ := compileText_eq_ok_iff.1 hschema
  cases hparse.symm.trans hparse'
  obtain ⟨m, field, hm, hfield, -, hprimitive⟩ := exists_field_of_plainName hmodel hd' hf hname
  have hbase : field.kind.base = .primitive .bool := hprimitive .bool hbool.symm
  refine ⟨schema, file, hschema, hparse, d, hd, d', hd', type, f, htype, hf, hname,
    resolve?_of_typeRef? hmodel hd htype, m, field, hm, hfield, hbase, ?_⟩
  rw [hbase]
  nofun

end WireSchema
