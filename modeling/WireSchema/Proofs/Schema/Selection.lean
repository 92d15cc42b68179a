import Mathlib.Data.List.Forall2
import WireSchema.Schema.Extract

/-!
# Which definitions a model keeps

A model keeps the definitions that qualify (`Definition.Qualifies`), and the others leave no trace.
A definition qualifies if the names of the recognized namespace, from the outermost on, are the
first names of the namespace around it. The test for this compares texts; the dot that it asks for
behind the shorter one is what keeps `Game` and `GameOther` apart (`inScope_iff`).

What is kept is kept whole and in the order of the sources: `MessageOf` and `EnumOf` say what
becomes of each part of a definition.
-/

namespace WireSchema

open WireSchema.Source

/-! ## Dotted names -/

/-- The names in a dotted path. -/
def components (path : String) : List String :=
  (path.toList.splitOn '.').map String.ofList

theorem components_ne_nil (path : String) : components path ≠ [] := by
  simp [components, List.splitOn_ne_nil]

/-- A path is its components with dots between them. -/
theorem intercalate_components (path : String) : ".".intercalate (components path) = path := by
  rw [← String.toList_inj, String.toList_intercalate]
  simp [components, Function.comp_def, List.intercalate_splitOn]

/-- A dot separates the components in front of it from those behind. -/
theorem components_append_dot (r rest : String) :
    components (r ++ "." ++ rest) = components r ++ components rest := by
  have hdot : (r ++ "." ++ rest).toList = r.toList ++ '.' :: rest.toList := by simp
  have hsplit : (r.toList ++ '.' :: rest.toList).splitOn '.' =
      r.toList.splitOn '.' ++ rest.toList.splitOn '.' :=
    List.splitOnP_append_cons _ _ (beq_self_eq_true '.')
  rw [components, hdot, hsplit, List.map_append]
  rfl

/-- The names of a path come first in another one if it is the same path, or goes on with a dot
    behind it. -/
theorem components_prefix_iff {r d : String} :
    components r <+: components d ↔ d = r ∨ ∃ rest, d = r ++ "." ++ rest := by
  constructor
  · rintro ⟨names, hnames⟩
    have hd := intercalate_components d
    rw [← hnames] at hd
    by_cases hempty : names = []
    · rw [hempty, List.append_nil, intercalate_components] at hd
      exact .inl hd.symm
    · rw [String.intercalate_append_of_ne_nil (components_ne_nil r) hempty,
        intercalate_components] at hd
      exact .inr ⟨_, hd.symm⟩
  · rintro (rfl | ⟨rest, rfl⟩)
    · exact List.prefix_rfl
    · exact ⟨_, (components_append_dot r rest).symm⟩

/-- The definition counts: no namespace is recognized, or the definition stands in one whose first
    names are those of the recognized one. -/
def Source.Definition.Qualifies (recognized : Option String) (d : Definition) : Prop :=
  ∀ r ∈ recognized, ∃ n ∈ d.scope, components r <+: components n

instance (recognized : Option String) (d : Definition) : Decidable (d.Qualifies recognized) :=
  inferInstanceAs (Decidable (∀ r ∈ recognized, ∃ n ∈ d.scope, components r <+: components n))

/-- The test on texts decides which definitions count. -/
theorem inScope_iff {recognized : Option String} {d : Definition} :
    inScope d.scope recognized = true ↔ d.Qualifies recognized := by
  have htext (r n : String) : (r ++ ".").toList <+: n.toList ↔ ∃ rest, n = r ++ "." ++ rest := by
    constructor
    · rintro ⟨rest, hrest⟩
      exact ⟨String.ofList rest, by simp [← String.toList_inj, ← hrest]⟩
    · rintro ⟨rest, rfl⟩
      exact ⟨rest.toList, by simp⟩
  rw [Definition.Qualifies]
  cases recognized with
  | none => cases d.scope <;> simp [inScope]
  | some r =>
    cases d.scope with
    | none => simp [inScope]
    | some n =>
      simp only [inScope, Bool.or_eq_true, beq_iff_eq, List.isPrefixOf_iff_prefix, htext,
        Option.mem_def, Option.some.injEq, forall_eq', exists_eq_left', components_prefix_iff]

/-! ## What is kept -/

/-- The message is that of a definition in the source with the given label: its fields are numbered
    as they are written, and their kinds are those of the written types. -/
structure MessageOf (source : String) (d : Definition) (m : Message) : Prop where
  name : m.name = d.name
  scope : m.scope = d.scope
  location : m.location = ⟨source, d.position.line, d.position.column⟩
  body : ∃ fields : List FieldDecl, d.body = .message (some m.identifier) m.marker fields ∧
    m.fields.map Field.name = fields.map FieldDecl.name ∧
    m.fields.map Field.kind = fields.map (fun f => Kind.ofType f.type) ∧
    m.fields.map Field.order = List.range fields.length ∧
    m.fields.map Field.location = fields.map fun f => ⟨source, f.position.line, f.position.column⟩

/-- The enum is that of a definition in the source with the given label: its width is the one that
    is written, and the default where none is. -/
structure EnumOf (defaultWidth : Option Width) (source : String) (d : Definition)
    (e : Enumeration) : Prop where
  name : e.name = d.name
  scope : e.scope = d.scope
  location : e.location = ⟨source, d.position.line, d.position.column⟩
  body : ∃ (width : Option Width) (members : List MemberDecl), d.body = .enum width members ∧
    (∀ w ∈ width, e.width = some w) ∧ (width = none → e.width = defaultWidth) ∧
    e.members.map Member.name = members.map MemberDecl.name ∧
    e.members.map Member.value = members.map MemberDecl.value ∧
    e.members.map Member.location =
      members.map fun m => ⟨source, m.position.line, m.position.column⟩

/-- A message has the name, the scope, the place and the contents of its definition. -/
theorem messageOf_extractMessage {source : String} {d : Definition} {id : Int} {marker : Bool}
    {fields : List FieldDecl} (h : d.body = .message (some id) marker fields) :
    MessageOf source d (extractMessage source d id marker fields) where
  name := rfl
  scope := rfl
  location := rfl
  body := by
    -- What does not look at the number of a field is taken from the fields without numbers.
    have hfst {β : Type} (f : FieldDecl → β) :
        fields.zipIdx.map (fun x => f x.1) = fields.map f := by
      conv_rhs => rw [← List.zipIdx_map_fst 0 fields, List.map_map]
      rfl
    have hsnd : fields.zipIdx.map (fun x => x.2) = List.range fields.length := by
      rw [List.range_eq_range']
      exact List.zipIdx_map_snd 0 fields
    refine ⟨fields, h, ?_, ?_, ?_, ?_⟩ <;>
      simp only [extractMessage, List.map_map, Function.comp_def]
    · exact hfst _
    · exact hfst fun f => Kind.ofType f.type
    · exact hsnd
    · exact hfst fun f => Location.of source f.position

/-- An enum has the name, the scope, the place and the contents of its definition. -/
theorem enumOf_extractEnum {source : String} {d : Definition} {width : Option Width}
    {members : List MemberDecl} (h : d.body = .enum width members) (defaultWidth : Option Width) :
    EnumOf defaultWidth source d (extractEnum source d (width.or defaultWidth) members) where
  name := rfl
  scope := rfl
  location := rfl
  body := by
    refine ⟨width, members, h, ?_, ?_, ?_, ?_, ?_⟩
    · rintro w rfl
      rfl
    · rintro rfl
      rfl
    · simp [extractEnum, Function.comp_def]
    · simp [extractEnum, Function.comp_def]
    · simp [extractEnum, Function.comp_def, Location.of]

/-! ## Models of sources -/

/-- Is the definition a message with an identifier? -/
def Source.Definition.isTagged (d : Definition) : Bool :=
  match d.body with
  | .message (some _) _ _ => true
  | _ => false

/-- Is the definition an enum? -/
def Source.Definition.isEnum (d : Definition) : Bool :=
  match d.body with
  | .enum _ _ => true
  | .message _ _ _ => false

/-- All definitions of some sources in their order, each with the label of its source. -/
def definitionsOf (files : List SourceFile) : List (String × Definition) :=
  files.flatMap fun file => file.definitions.map (file.name, ·)

/-- The images of the elements that have one, in their order. -/
theorem forall₂_filterMap {α β : Type} {R : α → β → Prop} {f : α → Option β} {keep : α → Bool}
    (h : ∀ a, (keep a = true ∧ ∃ b, f a = some b ∧ R a b) ∨ (keep a = false ∧ f a = none))
    (l : List α) : List.Forall₂ R (l.filter keep) (l.filterMap f) := by
  induction l with
  | nil => exact .nil
  | cons a l ih =>
    rcases h a with ⟨hkeep, b, hb, hR⟩ | ⟨hkeep, hnone⟩
    · rw [List.filter_cons_of_pos hkeep, List.filterMap_cons_some hb]
      exact .cons hR ih
    · rw [List.filter_cons_of_neg (by simp [hkeep]), List.filterMap_cons_none hnone]
      exact ih

/-- The messages of a file are those of its qualifying definitions, one for each and in their
    order. -/
theorem messagesIn_forall₂ (recognized : Option String) (file : SourceFile) :
    List.Forall₂ (MessageOf file.name)
      (file.definitions.filter fun d => d.isTagged && d.Qualifies recognized)
      (messagesIn recognized file) := by
  rw [messagesIn, recognizedIn, List.filterMap_filter]
  refine forall₂_filterMap (fun d => ?_) _
  by_cases hscope : d.Qualifies recognized
  · rw [if_pos (inScope_iff.2 hscope)]
    cases hbody : d.body with
    | enum width members => simp [Definition.isTagged, hbody]
    | message id marker fields =>
      cases id with
      | none => simp [Definition.isTagged, hbody]
      | some id =>
        refine .inl ⟨by simp [Definition.isTagged, hbody, hscope], _, rfl, ?_⟩
        exact messageOf_extractMessage hbody
  · rw [if_neg (mt inScope_iff.1 hscope)]
    simp [hscope]

/-- The enums of a file are those of its qualifying definitions, one for each and in their order. -/
theorem enumsIn_forall₂ (recognized : Option String) (defaultWidth : Option Width)
    (file : SourceFile) :
    List.Forall₂ (EnumOf defaultWidth file.name)
      (file.definitions.filter fun d => d.isEnum && d.Qualifies recognized)
      (enumsIn recognized defaultWidth file) := by
  rw [enumsIn, recognizedIn, List.filterMap_filter]
  refine forall₂_filterMap (fun d => ?_) _
  by_cases hscope : d.Qualifies recognized
  · rw [if_pos (inScope_iff.2 hscope)]
    cases hbody : d.body with
    | enum width members =>
      refine .inl ⟨by simp [Definition.isEnum, hbody, hscope], _, rfl, ?_⟩
      exact enumOf_extractEnum hbody defaultWidth
    | message id marker fields => simp [Definition.isEnum, hbody]
  · rw [if_neg (mt inScope_iff.1 hscope)]
    simp [hscope]

/-- What is kept of each source makes up what is kept of all. -/
theorem forall₂_definitionsOf {β : Type} {R : String → Definition → β → Prop}
    {keep : Definition → Bool} {f : SourceFile → List β}
    (h : ∀ file, List.Forall₂ (R file.name) (file.definitions.filter keep) (f file))
    (files : List SourceFile) :
    List.Forall₂ (fun x b => R x.1 x.2 b) ((definitionsOf files).filter fun x => keep x.2)
      (files.flatMap f) := by
  induction files with
  | nil => exact .nil
  | cons file files ih =>
    rw [definitionsOf, List.flatMap_cons, List.filter_append, List.flatMap_cons]
    refine List.rel_append ?_ ih
    rw [List.filter_map, List.forall₂_map_left_iff]
    exact h file

/-- A model has exactly the messages and enums of the definitions that qualify, in the order of the
    sources. Definitions qualify if no namespace is recognized, or if they stand in one whose first
    names are those of the recognized one; messages need an identifier, too. -/
theorem Model.extract_keeps_qualifying (files : List SourceFile) (recognized : Option String)
    (defaultWidth : Option Width) :
    List.Forall₂ (fun x m => MessageOf x.1 x.2 m)
      ((definitionsOf files).filter fun x => x.2.isTagged && x.2.Qualifies recognized)
      (extract files recognized defaultWidth).messages ∧
    List.Forall₂ (fun x e => EnumOf defaultWidth x.1 x.2 e)
      ((definitionsOf files).filter fun x => x.2.isEnum && x.2.Qualifies recognized)
      (extract files recognized defaultWidth).enums :=
  ⟨forall₂_definitionsOf (messagesIn_forall₂ recognized) files,
    forall₂_definitionsOf (enumsIn_forall₂ recognized defaultWidth) files⟩

end WireSchema
