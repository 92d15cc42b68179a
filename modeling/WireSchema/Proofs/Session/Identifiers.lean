import WireSchema.Proofs.Naming
import WireSchema.Proofs.Session.Meaning

/-!
# Which names become identifiers

The names in a text are words that begin with a letter or an underscore. Types and members lose the
underscores of their names and fields keep them, so a name that is accepted need not become an
identifier. `isIdent_iff_of_compileText` says exactly which ones do.
-/

namespace WireSchema

open WireSchema.Source WireSchema.Naming

/-! ## Names that are read -/

/-- The names of a definition and of its members or fields. -/
def Source.Definition.names (d : Definition) : List String :=
  d.name ::
    match d.body with
    | .enum _ members => members.map MemberDecl.name
    | .message _ _ fields => fields.map FieldDecl.name

/-- The names in an enum are tokens, so they are names. -/
theorem Source.EnumTree.isName_of_mem_names (path : List String) (x : EnumTree) :
    ∀ name ∈ (x.definition path).names, IsName name := by
  refine List.forall_mem_cons.2 ⟨x.name.isOf, ?_⟩
  simp only [definition, List.map_map, List.forall_mem_map]
  exact fun member _ => member.name.isOf

/-- The names in a message are tokens, so they are names. -/
theorem Source.MessageTree.isName_of_mem_names (path : List String) (x : MessageTree) :
    ∀ name ∈ (x.definition path).names, IsName name := by
  refine List.forall_mem_cons.2 ⟨x.name.isOf, ?_⟩
  simp only [definition, List.map_map, List.forall_mem_map]
  exact fun field _ => field.name.isOf

/-- All definitions of a source have names for names, in every namespace. -/
theorem Source.Items.isName_of_mem_names (items : Items) (path : List String) :
    ∀ d ∈ items.definitions path, ∀ name ∈ d.names, IsName name := by
  induction items generalizing path with
  | nil => nofun
  | block keyword names left inner right rest ih ih' =>
    exact List.forall_mem_append.2 ⟨ih _, ih' _⟩
  | enum keyword decl rest ih =>
    exact List.forall_mem_cons.2 ⟨decl.isName_of_mem_names path, ih path⟩
  | message keyword decl rest ih =>
    exact List.forall_mem_cons.2 ⟨decl.isName_of_mem_names path, ih path⟩

/-- A source that can be parsed uses names only. -/
theorem isName_of_parse {text label : String} {file : SourceFile}
    (h : parse text label = .ok file) : ∀ d ∈ file.definitions, ∀ name ∈ d.names, IsName name := by
  obtain ⟨tokens, htokens, hfile⟩ := parse_eq_ok_iff.1 h
  obtain ⟨ts, q, hlexes, rfl⟩ := tokenize_eq_ok_iff.1 htokens
  obtain ⟨items, -, rfl⟩ := hlexes.exists_items hfile
  exact items.isName_of_mem_names []

/-! ## Names of models -/

/-- All names of a model are words. -/
structure Model.Named (model : Model) : Prop where
  enums : ∀ e ∈ model.enums, IsName e.name ∧ ∀ m ∈ e.members, IsName m.name
  messages : ∀ m ∈ model.messages, IsName m.name ∧ ∀ f ∈ m.fields, IsName f.name

/-- The model of sources that use names only does so as well. -/
theorem Model.named_extract {files : List SourceFile}
    (h : ∀ file ∈ files, ∀ d ∈ file.definitions, ∀ name ∈ d.names, IsName name)
    (recognized : Option String) (width : Option Width) :
    (extract files recognized width).Named where
  enums e he := by
    obtain ⟨file, hfile, he⟩ := List.mem_flatMap.1 he
    obtain ⟨d, hd, he⟩ := List.mem_filterMap.1 he
    have hnames := h file hfile d (List.mem_filter.1 hd).1
    split at he
    · next hbody =>
      cases he
      simpa [Definition.names, hbody, extractEnum] using hnames
    · cases he
  messages m hm := by
    obtain ⟨file, hfile, hm⟩ := List.mem_flatMap.1 hm
    obtain ⟨d, hd, hm⟩ := List.mem_filterMap.1 hm
    have hnames := h file hfile d (List.mem_filter.1 hd).1
    split at hm
    · next hbody =>
      cases hm
      simp only [Definition.names, hbody, List.forall_mem_cons, List.forall_mem_map] at hnames
      refine ⟨hnames.1, List.forall_mem_map.2 fun x hx => hnames.2 x.1 ?_⟩
      exact List.fst_mem_of_mem_zipIdx hx
    · cases hm

/-- The schema of a text has names for names. -/
theorem named_of_compileText {text : String} {schema : Schema}
    (h : compileText text = .ok schema) : schema.model.Named := by
  obtain ⟨file, hparse, hmodel⟩ := compileText_eq_ok_iff.1 h
  rw [hmodel]
  exact Model.named_extract (by simpa using isName_of_parse hparse) none none

/-! ## Identifiers -/

/-- In a text that is accepted, the name of a type or of a member becomes an identifier exactly if a
    letter follows its leading underscores, and the name of a field exactly if it is not the
    underscore. -/
theorem isIdent_iff_of_compileText {text : String} {schema : Schema}
    (h : compileText text = .ok schema) :
    (∀ e ∈ schema.enums, (IsIdent (typeIdent e.name) ↔ LetterFirst e.name) ∧
      ∀ member ∈ e.members, IsIdent (typeIdent member.name) ↔ LetterFirst member.name) ∧
    ∀ m ∈ schema.messages, (IsIdent (typeIdent m.name) ↔ LetterFirst m.name) ∧
      ∀ f ∈ m.fields, IsIdent (fieldIdent f.name) ↔ f.name ≠ "_" := by
  have hnamed := named_of_compileText h
  constructor
  · intro e he
    obtain ⟨hname, hmembers⟩ := hnamed.enums e he
    exact ⟨isIdent_typeIdent_iff hname, fun member hm => isIdent_typeIdent_iff (hmembers member hm)⟩
  · intro m hm
    obtain ⟨hname, hfields⟩ := hnamed.messages m hm
    exact ⟨isIdent_typeIdent_iff hname, fun f hf => isIdent_fieldIdent_iff (hfields f hf)⟩

/-- A text with an underscore in front of a name, one behind a name, and two names that become
    keywords in the case of identifiers. -/
def modeText : String :=
  "enum _mode \x7b on_ = 0; \x7d message self = 1 \x7b u64 Type; \x7d"

/-- An enum, a member, a message and a field with odd names still have identifiers. -/
theorem isIdent_iff_of_compileText_modeText :
    ∃ schema, compileText modeText = .ok schema ∧
      ∃ e ∈ schema.enums, ∃ member ∈ e.members, ∃ m ∈ schema.messages, ∃ f ∈ m.fields,
        (typeIdent e.name = "Mode" ∧ IsIdent (typeIdent e.name)) ∧
        (typeIdent member.name = "On" ∧ IsIdent (typeIdent member.name)) ∧
        (typeIdent m.name = "Self_" ∧ IsIdent (typeIdent m.name)) ∧
        fieldIdent f.name = "type_" ∧ IsIdent (fieldIdent f.name) := by
  have hview : (compileText modeText).toOption.map (fun s =>
      (s.enums.map fun e => (e.name, e.members.map Member.name),
        s.messages.map fun m => (m.name, m.fields.map Field.name))) =
      some ([("_mode", ["on_"])], [("self", ["Type"])]) := by
    decide +kernel
  obtain ⟨schema, hschema, hnames⟩ := exists_schema_of_view hview
  simp only [Prod.mk.injEq, List.map_eq_singleton_iff] at hnames
  obtain ⟨⟨e, henums, hmode, member, hmembers, hon⟩, m, hmessages, hself, f, hfields, htype⟩ :=
    hnames
  have he : e ∈ schema.enums := henums ▸ List.mem_cons_self
  have hmember : member ∈ e.members := hmembers ▸ List.mem_cons_self
  have hm : m ∈ schema.messages := hmessages ▸ List.mem_cons_self
  have hf : f ∈ m.fields := hfields ▸ List.mem_cons_self
  obtain ⟨hiffEnums, hiffMessages⟩ := isIdent_iff_of_compileText hschema
  obtain ⟨hiffMode, hiffMember⟩ := hiffEnums e he
  obtain ⟨hiffSelf, hiffField⟩ := hiffMessages m hm
  refine ⟨schema, hschema, e, he, member, hmember, m, hm, f, hf, ⟨?_, hiffMode.2 ?_⟩,
    ⟨?_, (hiffMember member hmember).2 ?_⟩, ⟨?_, hiffSelf.2 ?_⟩, ?_, (hiffField f hf).2 ?_⟩
  · rw [hmode]
    decide +kernel
  · exact hmode ▸ ⟨'m', by decide +kernel, by decide⟩
  · rw [hon]
    decide +kernel
  · exact hon ▸ ⟨'o', by decide +kernel, by decide⟩
  · rw [hself]
    decide +kernel
  · exact hself ▸ ⟨'s', by decide +kernel, by decide⟩
  · rw [htype]
    decide +kernel
  · rw [htype]
    decide

/-- A text with a message that is called by an underscore. -/
def underscoreText : String :=
  "message _ = 1 \x7b u8 x; \x7d"

/-- A message that is called by an underscore is accepted and becomes a struct without a name. -/
theorem underscore_has_no_identifier :
    ∃ schema, compileText underscoreText = .ok schema ∧
      ∃ m ∈ schema.messages, m.name = "_" ∧ typeIdent m.name = "" ∧ ¬IsIdent (typeIdent m.name) ∧
        "pub struct  \x7b" ∈ Codegen.structLines schema m := by
  have hview : (compileText underscoreText).toOption.map (fun s =>
      s.messages.map fun m => (m.name, Codegen.structLines s m)) =
      some [("_", ["/// Message `_`, identifier 1.", "#[derive(Debug, Clone, PartialEq)]",
        "pub struct  \x7b", "    pub x: u8,", "\x7d"])] := by
    decide +kernel
  obtain ⟨schema, hschema, hmessages⟩ := exists_schema_of_view hview
  simp only [List.map_eq_singleton_iff, Prod.mk.injEq] at hmessages
  obtain ⟨m, hmessages, hname, hlines⟩ := hmessages
  have hident : typeIdent m.name = "" := by
    rw [hname]
    decide +kernel
  refine ⟨schema, hschema, m, hmessages ▸ List.mem_cons_self, hname, hident, ?_, ?_⟩
  · rw [hident]
    rintro ⟨⟨c, rest, hchars, -⟩, -, -⟩
    cases hchars
  · simp [hlines]

end WireSchema
