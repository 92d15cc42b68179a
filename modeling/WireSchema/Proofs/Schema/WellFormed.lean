import WireSchema.Proofs.Schema.Weightless
import WireSchema.Schema.Valid

/-!
# Well-formed models

What the checks of a model stand for, said without them. For each check one lemma says when it finds
no problem; together they say that a model is accepted exactly when it is well formed.

Four of the checks go through a list with the keys that are taken so far. What they ask is `Fresh`.
-/

namespace WireSchema

open WireSchema.Naming

/-! ## Keys that are taken -/

/-- The keys are distinct and none of them is taken. -/
def Fresh {α : Type} (taken keys : List α) : Prop :=
  keys.Nodup ∧ ∀ k ∈ keys, k ∉ taken

section Fresh

variable {α : Type} {taken keys : List α} {k : α}

theorem fresh_nil : Fresh taken [] := ⟨List.nodup_nil, by simp⟩

/-- Keys are fresh if the first is not taken and the rest is fresh with it taken. -/
theorem fresh_cons : Fresh taken (k :: keys) ↔ k ∉ taken ∧ Fresh (k :: taken) keys := by
  rw [Fresh, Fresh, List.nodup_cons, List.forall_mem_cons]
  simp only [List.mem_cons, not_or]
  refine ⟨fun ⟨⟨hk, hkeys⟩, hktaken, htaken⟩ => ⟨hktaken, hkeys, fun x hx => ⟨?_, htaken x hx⟩⟩,
    fun ⟨hktaken, hkeys, h⟩ => ⟨⟨fun hk => (h k hk).1 rfl, hkeys⟩, hktaken, fun x hx => (h x hx).2⟩⟩
  rintro rfl
  exact hk hx

theorem fresh_nil_left : Fresh [] keys ↔ keys.Nodup := by simp [Fresh]

theorem lookup_eq_none_iff_notMem [BEq α] [LawfulBEq α] {β : Type} {seen : List (α × β)} :
    seen.lookup k = none ↔ k ∉ seen.map Prod.fst := by
  rw [List.lookup_eq_none_iff, List.mem_map]
  refine ⟨fun h => ?_, fun h p hp => ?_⟩
  · rintro ⟨p, hp, rfl⟩
    simpa using h p hp
  · exact bne_iff_ne.2 fun hk => h ⟨p, hp, hk.symm⟩

end Fresh

/-! ## Identifiers -/

/-- Identifiers on the wire have 32 bits. -/
theorem isWireId_iff {n : Int} : isWireId n = true ↔ 0 ≤ n ∧ n ≤ Nat.pow 2 32 - 1 := by
  rw [isWireId, Bool.and_eq_true, decide_eq_true_iff, decide_eq_true_iff]
  rfl

/-- Nothing is reported if all identifiers fit the wire and none is used twice. -/
theorem idProblems_eq_nil_iff {seen ms : List Message} :
    idProblems seen ms = [] ↔ (∀ m ∈ ms, isWireId m.identifier = true) ∧
      Fresh (seen.map Message.identifier) (ms.map Message.identifier) := by
  induction ms generalizing seen with
  | nil => simp [idProblems, fresh_nil]
  | cons m ms ih =>
    rw [idProblems, List.forall_mem_cons, List.map_cons, fresh_cons]
    by_cases hid : isWireId m.identifier = true
    · rw [if_neg (by simp [hid])]
      cases hfind : seen.find? fun s => s.identifier == m.identifier with
      | some first =>
        have htaken : m.identifier ∈ seen.map Message.identifier :=
          List.mem_map.2
            ⟨first, List.mem_of_find?_eq_some hfind, eq_of_beq (List.find?_some hfind :)⟩
        simp [htaken]
      | none =>
        have hfree : m.identifier ∉ seen.map Message.identifier := by
          simpa using List.find?_eq_none.1 hfind
        rw [ih]
        simp [hid, hfree]
    · simp [hid]

/-! ## Kinds -/

/-- The wire can hold a part of a kind. -/
def Kind.Supported : Kind → Prop
  | .unsupported _ => False
  | .array _ (.fixed n) => 0 < n ∧ n ≤ 65536
  | _ => True

/-- The two searches through a kind find nothing if all its parts are supported. -/
theorem Kind.supported_iff {kind : Kind} :
    (∀ k ∈ kind.parts, k.Supported) ↔
      kind.unsupportedPart? = none ∧ kind.longestFixedLen ≤ maxFixedLen := by
  induction kind with
  | primitive | named => simp [parts, Supported, unsupportedPart?, longestFixedLen]
  | unsupported => simp [parts, Supported, unsupportedPart?]
  | array element len ih =>
    rw [parts, List.forall_mem_cons, ih]
    cases len with
    | counted => simp [Supported, unsupportedPart?, longestFixedLen]
    | fixed n =>
      cases n with
      | zero => simp [Supported, unsupportedPart?]
      | succ n =>
        simp only [Supported, unsupportedPart?, longestFixedLen, maxFixedLen, Nat.max_le,
          Nat.succ_pos, true_and]
        exact and_left_comm

/-- The kind of a field has no problems if all its parts are supported. -/
theorem kindProblems_eq_nil_iff {m : Message} {f : Field} :
    kindProblems m f = [] ↔ ∀ k ∈ f.kind.parts, k.Supported := by
  rw [Kind.supported_iff, kindProblems, List.append_eq_nil_iff]
  refine and_congr ?_ ?_
  · cases f.kind.unsupportedPart? <;> simp
  · simp

/-! ## References -/

/-- The name is that of a message or an enum. -/
def Model.Defines (model : Model) (name : String) : Prop :=
  name ∈ model.messages.map Message.name ∨ name ∈ model.enums.map Enumeration.name

/-- The test for a definition finds every message and every enum. -/
theorem Model.defines_iff {model : Model} {name : String} :
    model.defines name = true ↔ model.Defines name := by
  simp [defines, Defines]

/-- The references of a field have no problems if the name at its base is defined. -/
theorem referenceProblems_eq_nil_iff {model : Model} {m : Message} {f : Field} :
    referenceProblems model m f = [] ↔ ∀ name, f.kind.base = .named name → model.Defines name := by
  rw [referenceProblems]
  cases f.kind.base with
  | named target =>
    simp only [Kind.named.injEq, forall_eq', ← Model.defines_iff]
    cases model.defines target <;> simp
  | primitive | array | unsupported => simp

/-- The base of a kind is one of its parts. -/
theorem Kind.base_mem_parts (kind : Kind) : kind.base ∈ kind.parts := by
  induction kind with
  | array element len ih => exact List.mem_cons_of_mem _ ih
  | primitive | named | unsupported => exact List.mem_cons_self

theorem Kind.base_ne_array {kind element : Kind} {len : ArrayLen} :
    kind.base ≠ .array element len := by
  induction kind with
  | array _ _ ih => exact ih
  | primitive | named | unsupported => nofun

/-! ## Empty messages -/

/-- Only a marker may have no fields. -/
theorem emptinessProblems_eq_nil_iff {m : Message} :
    emptinessProblems m = [] ↔ (m.fields = [] → m.marker = true) := by
  rw [emptinessProblems]
  cases m.marker <;> cases m.fields <;> simp

/-- A check of single fields finds nothing if it finds nothing in any. -/
theorem Model.eachField_eq_nil_iff {model : Model} {check : Message → Field → List Problem} :
    model.eachField check = [] ↔ ∀ m ∈ model.messages, ∀ f ∈ m.fields, check m f = [] := by
  simp [eachField, List.flatMap_eq_nil_iff]

/-! ## Names -/

/-- A name is free if neither it nor its identifier is reserved. -/
theorem isReserved_eq_false_iff {name : String} :
    isReserved name = false ↔ name ∉ reservedNames ∧ typeIdent name ∉ reservedNames := by
  rw [isReserved, Bool.or_eq_false_iff, and_comm]
  simp

/-- The names of types have no problems if none is reserved and their identifiers differ. -/
theorem typeNameProblems_eq_nil_iff {seen names : List (String × Location)} :
    typeNameProblems seen names = [] ↔ (∀ p ∈ names, isReserved p.1 = false) ∧
      Fresh (seen.map Prod.fst) (names.map fun p => typeIdent p.1) := by
  induction names generalizing seen with
  | nil => simp [typeNameProblems, fresh_nil]
  | cons p names ih =>
    obtain ⟨name, location⟩ := p
    rw [typeNameProblems, List.forall_mem_cons, List.map_cons, fresh_cons,
      ← lookup_eq_none_iff_notMem]
    by_cases hreserved : isReserved name = true
    · simp [hreserved]
    · rw [if_neg hreserved]
      cases hlookup : seen.lookup (typeIdent name) with
      | some first => simp
      | none =>
        rw [ih]
        simp [hreserved]

/-- The names of fields have no problems if their identifiers differ. -/
theorem fieldNameProblems_eq_nil_iff {owner : String} {seen : List (String × String)}
    {fields : List Field} :
    fieldNameProblems owner seen fields = [] ↔
      Fresh (seen.map Prod.fst) (fields.map fun f => fieldIdent f.name) := by
  induction fields generalizing seen with
  | nil => simp [fieldNameProblems, fresh_nil]
  | cons f fields ih =>
    rw [fieldNameProblems, List.map_cons, fresh_cons, ← lookup_eq_none_iff_notMem]
    cases hlookup : seen.lookup (fieldIdent f.name) with
    | some first => simp
    | none =>
      rw [ih]
      simp

/-! ## Enums -/

/-- A value fits a width if the unsigned integers of the width include it. -/
theorem fitsWidth_iff {w : Width} {value : Int} :
    fitsWidth w value = true ↔ 0 ≤ value ∧ value ≤ w.unsignedMax := by
  rw [fitsWidth, Bool.and_eq_true, decide_eq_true_iff, decide_eq_true_iff]

/-- Members have no problems if their values fit the width, and their identifiers and values
    differ. -/
theorem memberProblems_eq_nil_iff {e : Enumeration} {names : List (String × String)}
    {values : List (Int × String)} {members : List Member} :
    memberProblems e names values members = [] ↔
      (∀ m ∈ members, fitsWidth e.wireWidth m.value = true) ∧
      Fresh (names.map Prod.fst) (members.map fun m => typeIdent m.name) ∧
      Fresh (values.map Prod.fst) (members.map Member.value) := by
  induction members generalizing names values with
  | nil => simp [memberProblems, fresh_nil]
  | cons m members ih =>
    rw [memberProblems, List.forall_mem_cons, List.map_cons, List.map_cons, fresh_cons, fresh_cons,
      ← lookup_eq_none_iff_notMem, ← lookup_eq_none_iff_notMem]
    by_cases hfits : fitsWidth e.wireWidth m.value = true
    · cases hname : names.lookup (typeIdent m.name) with
      | some first => simp
      | none =>
        cases hvalue : values.lookup m.value with
        | some first => simp
        | none => simp [hfits, ih]
    · simp [hfits]

/-- An enum is well formed. -/
structure Enumeration.WellFormed (e : Enumeration) : Prop where
  nonempty : e.members ≠ []
  names_distinct : (e.members.map fun m => typeIdent m.name).Nodup
  values_distinct : (e.members.map Member.value).Nodup
  values_fit : ∀ m ∈ e.members, 0 ≤ m.value ∧ m.value ≤ e.wireWidth.unsignedMax

/-- An enum has no problems if it is well-formed. -/
theorem enumProblems_eq_nil_iff {e : Enumeration} : enumProblems e = [] ↔ e.WellFormed := by
  rw [enumProblems]
  by_cases hempty : e.members = []
  · rw [if_pos (by simpa using hempty)]
    exact ⟨nofun, fun h => absurd hempty h.nonempty⟩
  · rw [if_neg (by simpa using hempty), memberProblems_eq_nil_iff, List.map_nil, List.map_nil,
      fresh_nil_left, fresh_nil_left]
    simp only [fitsWidth_iff]
    exact ⟨fun ⟨hfit, hnames, hvalues⟩ => ⟨hempty, hnames, hvalues, hfit⟩,
      fun h => ⟨h.values_fit, h.names_distinct, h.values_distinct⟩⟩

/-! ## Models -/

/-- The names of all types of a model, enums first. -/
def Model.allNames (model : Model) : List String :=
  model.enums.map Enumeration.name ++ model.messages.map Message.name

/-- A model is well formed. -/
structure Model.WellFormed (model : Model) : Prop where
  ids_fit : ∀ m ∈ model.messages, 0 ≤ m.identifier ∧ m.identifier ≤ Nat.pow 2 32 - 1
  ids_distinct : (model.messages.map Message.identifier).Nodup
  parts_supported : ∀ m ∈ model.messages, ∀ f ∈ m.fields, ∀ k ∈ f.kind.parts, k.Supported
  bases_known : ∀ m ∈ model.messages, ∀ f ∈ m.fields,
    (∃ p, f.kind.base = .primitive p) ∨ ∃ name, f.kind.base = .named name ∧ model.Defines name
  empty_marked : ∀ m ∈ model.messages, m.fields = [] → m.marker = true
  types_distinct : (model.allNames.map typeIdent).Nodup
  types_free : ∀ name ∈ model.allNames, name ∉ reservedNames ∧ typeIdent name ∉ reservedNames
  fields_distinct : ∀ m ∈ model.messages, (m.fields.map fun f => fieldIdent f.name).Nodup
  enums_wellFormed : ∀ e ∈ model.enums, e.WellFormed
  acyclic : ∀ m, ¬Relation.TransGen model.StoresInline m m
  elements_weigh : ∀ m ∈ model.messages, ∀ f ∈ m.fields, ∀ element,
    .array element .counted ∈ f.kind.parts → ¬model.Weightless element

/-- The names that are checked are those of all definitions. -/
theorem Model.map_fst_typeNames (model : Model) :
    model.typeNames.map Prod.fst = model.allNames := by
  rw [typeNames, allNames, List.map_append, List.map_map, List.map_map]
  rfl

/-- The types of a model have no problems if no name is reserved and all identifiers differ. -/
theorem Model.typeNameProblems_typeNames_eq_nil_iff {model : Model} :
    typeNameProblems [] model.typeNames = [] ↔
      (∀ name ∈ model.allNames, name ∉ reservedNames ∧ typeIdent name ∉ reservedNames) ∧
        (model.allNames.map typeIdent).Nodup := by
  rw [typeNameProblems_eq_nil_iff, List.map_nil, fresh_nil_left, ← map_fst_typeNames, List.map_map]
  simp only [List.forall_mem_map, isReserved_eq_false_iff]
  rfl

/-- Messages have distinct names where types have distinct identifiers in generated code. -/
theorem Model.nodup_names {model : Model} (h : (model.allNames.map typeIdent).Nodup) :
    (model.messages.map Message.name).Nodup :=
  (List.nodup_append.1 (List.Nodup.of_map _ h)).2.1

/-- A field refers to something that the wire can hold and the model defines. -/
theorem Model.kind_checks_iff {model : Model} {kind : Kind} :
    ((∀ k ∈ kind.parts, k.Supported) ∧
        ∀ name, kind.base = .named name → model.Defines name) ↔
      (∀ k ∈ kind.parts, k.Supported) ∧
        ((∃ p, kind.base = .primitive p) ∨
          ∃ name, kind.base = .named name ∧ model.Defines name) := by
  refine and_congr_right fun hparts => ?_
  have hbase := hparts _ kind.base_mem_parts
  cases hkind : kind.base with
  | primitive p => simp
  | named name => simp
  | array element len => exact absurd hkind kind.base_ne_array
  | unsupported text =>
    rw [hkind] at hbase
    exact hbase.elim

/-- Every cycle is reported, so where no report is, no cycle is. -/
theorem Model.filterMap_cycleProblem?_eq_nil_iff {model : Model} :
    model.cycles.filterMap model.cycleProblem? = [] ↔ model.cycles = [] := by
  rw [List.filterMap_eq_nil_iff]
  refine ⟨fun h => List.eq_nil_iff_forall_not_mem.2 fun c hc => ?_, fun h => by simp [h]⟩
  have hsome := cycleProblem?_isSome hc
  rw [h c hc] at hsome
  cases hsome

/-- The elements of a field have no problems if none of its counted arrays has elements without
    bytes. -/
theorem elementProblems_eq_nil_iff {model : Model}
    (hnames : (model.messages.map Message.name).Nodup) (hcycles : model.cycles = []) {m : Message}
    {f : Field} : elementProblems model m f = [] ↔
      ∀ element, .array element .counted ∈ f.kind.parts → ¬model.Weightless element := by
  have hiff : model.hasEmptyElements f.kind = true ↔ _ := Model.hasEmptyElements_iff hnames hcycles
  rw [elementProblems, ite_eq_right_iff, hiff]
  simp

/-- The checks find nothing exactly in the models that are well-formed. -/
theorem Model.problems_eq_nil_iff {model : Model} : model.problems = [] ↔ model.WellFormed := by
  simp only [problems, List.append_eq_nil_iff, and_assoc, eachField_eq_nil_iff,
    List.flatMap_eq_nil_iff, idProblems_eq_nil_iff, isWireId_iff, kindProblems_eq_nil_iff,
    referenceProblems_eq_nil_iff, emptinessProblems_eq_nil_iff,
    typeNameProblems_typeNames_eq_nil_iff, fieldNameProblems_eq_nil_iff, enumProblems_eq_nil_iff,
    filterMap_cycleProblem?_eq_nil_iff, List.map_nil, fresh_nil_left]
  refine ⟨?_, fun h => ?_⟩
  · rintro ⟨hfit, hids, hparts, hrefs, hempty, hfree, htypes, hfields, henums, hcycles, helements⟩
    -- The last checks follow messages by their names: they are exact once names are distinct and
    -- the earlier checks have passed.
    have hnames := nodup_names htypes
    exact {
      ids_fit := hfit
      ids_distinct := hids
      parts_supported := hparts
      bases_known := fun m hm f hf => (kind_checks_iff.1 ⟨hparts m hm f hf, hrefs m hm f hf⟩).2
      empty_marked := hempty
      types_distinct := htypes
      types_free := hfree
      fields_distinct := hfields
      enums_wellFormed := henums
      acyclic := (cycles_eq_nil_iff hnames).1 hcycles
      elements_weigh := fun m hm f hf =>
        (elementProblems_eq_nil_iff hnames hcycles).1 (helements m hm f hf) }
  · have hnames := nodup_names h.types_distinct
    have hcycles := (cycles_eq_nil_iff hnames).2 h.acyclic
    have hrefs : ∀ m ∈ model.messages, ∀ f ∈ m.fields, ∀ name, f.kind.base = .named name →
        model.Defines name := fun m hm f hf =>
      (kind_checks_iff.2 ⟨h.parts_supported m hm f hf, h.bases_known m hm f hf⟩).2
    exact ⟨h.ids_fit, h.ids_distinct, h.parts_supported, hrefs, h.empty_marked, h.types_free,
      h.types_distinct, h.fields_distinct, h.enums_wellFormed, hcycles, fun m hm f hf =>
        (elementProblems_eq_nil_iff hnames hcycles).2 (h.elements_weigh m hm f hf)⟩

/-- The model of a schema is well formed. -/
theorem Schema.wellFormed (s : Schema) : s.model.WellFormed :=
  Model.problems_eq_nil_iff.1 s.valid

/-- A schema that the checks give is the model with nothing changed. -/
theorem Model.validate_eq_ok_iff {model : Model} {s : Schema} :
    model.validate = .ok s ↔ s.model = model := by
  rw [validate]
  split
  · rw [Except.ok.injEq]
    refine ⟨fun h => by rw [← h], fun h => ?_⟩
    cases s
    cases h
    rfl
  · refine ⟨nofun, ?_⟩
    rintro rfl
    simp_all [s.valid]

/-- The checks that refuse a model give all its problems. -/
theorem Model.validate_eq_error_iff {model : Model} {problems : List Problem} :
    model.validate = .error problems ↔ model.problems = problems ∧ problems ≠ [] := by
  rw [validate]
  split
  · next h =>
    refine ⟨nofun, ?_⟩
    rintro ⟨rfl, hne⟩
    exact absurd h hne
  · next p rest h =>
    rw [Except.error.injEq, h]
    refine ⟨?_, And.left⟩
    rintro rfl
    exact ⟨rfl, List.cons_ne_nil _ _⟩

/-- The checks accept exactly the well-formed models. -/
theorem Model.validate_isOk_iff_wellFormed (model : Model) :
    (∃ s, model.validate = .ok s) ↔ model.WellFormed := by
  simp only [validate_eq_ok_iff, ← problems_eq_nil_iff]
  refine ⟨?_, fun h => ⟨⟨model, h⟩, rfl⟩⟩
  rintro ⟨s, rfl⟩
  exact s.valid

end WireSchema
