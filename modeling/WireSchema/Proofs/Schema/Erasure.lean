import WireSchema.Proofs.Schema.Index
import WireSchema.Schema.Valid

/-!
# Models without places

Places are only for reports. When the places in a model are erased, and with them the namespaces
that its definitions stand in, all checks find the same problems, with the places in them erased
(`Model.problems_erase`). So two models that differ in nothing else have the same problems.
-/

namespace WireSchema

/-! ## Erasure -/

/-- No place at all. -/
def Location.nowhere : Location := ⟨"", 0, 0⟩

/-- A field without its place. -/
def Field.erase (f : Field) : Field := { f with location := .nowhere }

/-- A message without its place and namespace. -/
def Message.erase (m : Message) : Message :=
  { m with scope := none, fields := m.fields.map Field.erase, location := .nowhere }

/-- A member of an enum without its place. -/
def Member.erase (m : Member) : Member := { m with location := .nowhere }

/-- An enum without its place and namespace. -/
def Enumeration.erase (e : Enumeration) : Enumeration :=
  { e with scope := none, members := e.members.map Member.erase, location := .nowhere }

/-- A model without the places and namespaces of its definitions. -/
def Model.erase (model : Model) : Model :=
  { model with
    enums := model.enums.map Enumeration.erase
    messages := model.messages.map Message.erase }

/-- A problem without its places. -/
def Problem.erase : Problem → Problem
  | duplicateMessageId id message first _ _ =>
    duplicateMessageId id message first .nowhere .nowhere
  | invalidMessageId id message _ => invalidMessageId id message .nowhere
  | unsupportedKind owner field kind _ => unsupportedKind owner field kind .nowhere
  | fixedArrayTooLong owner field length limit _ =>
    fixedArrayTooLong owner field length limit .nowhere
  | zeroWidthElement owner field kind _ => zeroWidthElement owner field kind .nowhere
  | unresolvedReference owner field target _ => unresolvedReference owner field target .nowhere
  | emptyMessage message _ => emptyMessage message .nowhere
  | duplicateTypeName name _ _ => duplicateTypeName name .nowhere .nowhere
  | reservedTypeName name _ => reservedTypeName name .nowhere
  | duplicateFieldName owner first second generated _ =>
    duplicateFieldName owner first second generated .nowhere
  | emptyEnum name _ => emptyEnum name .nowhere
  | duplicateEnumValue name member first value _ =>
    duplicateEnumValue name member first value .nowhere
  | enumValueOutOfRange name member value width _ =>
    enumValueOutOfRange name member value width .nowhere
  | recursiveNesting message path _ => recursiveNesting message path .nowhere
  | ambiguousRegistryEntry id first second => ambiguousRegistryEntry id first second

section

variable (f : Field) (m : Message) (n : Member) (e : Enumeration) (model : Model)

@[simp]
theorem Field.erase_name : f.erase.name = f.name := rfl

@[simp]
theorem Field.erase_kind : f.erase.kind = f.kind := rfl

@[simp]
theorem Field.erase_location : f.erase.location = .nowhere := rfl

@[simp]
theorem Message.erase_identifier : m.erase.identifier = m.identifier := rfl

@[simp]
theorem Message.erase_id : m.erase.id = m.id := rfl

@[simp]
theorem Message.erase_name : m.erase.name = m.name := rfl

@[simp]
theorem Message.erase_marker : m.erase.marker = m.marker := rfl

@[simp]
theorem Message.erase_fields : m.erase.fields = m.fields.map Field.erase := rfl

@[simp]
theorem Message.erase_location : m.erase.location = .nowhere := rfl

@[simp]
theorem Member.erase_name : n.erase.name = n.name := rfl

@[simp]
theorem Member.erase_value : n.erase.value = n.value := rfl

@[simp]
theorem Enumeration.erase_name : e.erase.name = e.name := rfl

@[simp]
theorem Enumeration.erase_members : e.erase.members = e.members.map Member.erase := rfl

@[simp]
theorem Enumeration.erase_location : e.erase.location = .nowhere := rfl

/-- The width on the wire is declared or follows from the members, and not from a place. -/
@[simp]
theorem Enumeration.erase_wireWidth : e.erase.wireWidth = e.wireWidth := by
  simp only [wireWidth, maxValue, erase, List.foldl_map]
  rfl

@[simp]
theorem Model.erase_scope : model.erase.scope = model.scope := rfl

@[simp]
theorem Model.erase_enums : model.erase.enums = model.enums.map Enumeration.erase := rfl

@[simp]
theorem Model.erase_messages : model.erase.messages = model.messages.map Message.erase := rfl

end

/-! ## Identifiers and fields -/

/-- The check of identifiers finds the same problems without places. -/
theorem idProblems_erase (seen messages : List Message) :
    idProblems (seen.map Message.erase) (messages.map Message.erase) =
      (idProblems seen messages).map Problem.erase := by
  induction messages generalizing seen with
  | nil => rfl
  | cons m messages ih =>
    have hfind : (seen.map Message.erase).find? (fun s => s.identifier == m.identifier) =
        (seen.find? fun s => s.identifier == m.identifier).map Message.erase := by
      rw [List.find?_map]
      rfl
    simp only [List.map_cons, idProblems, Message.erase_identifier, hfind]
    cases isWireId m.identifier with
    | false => simp [ih, Problem.erase]
    | true =>
      cases seen.find? fun s => s.identifier == m.identifier with
      | none => exact ih (m :: seen)
      | some first => simp [ih, Problem.erase]

/-- A check of single fields that does not see places finds the same problems in the whole model. -/
theorem Model.eachField_erase (model : Model) {check check' : Message → Field → List Problem}
    (h : ∀ m f, check' m.erase f.erase = (check m f).map Problem.erase) :
    model.erase.eachField check' = (model.eachField check).map Problem.erase := by
  simp [eachField, List.flatMap_map, List.map_flatMap, h]

theorem kindProblems_erase (m : Message) (f : Field) :
    kindProblems m.erase f.erase = (kindProblems m f).map Problem.erase := by
  simp only [kindProblems, Field.erase_kind, List.map_append]
  congr 1
  · cases f.kind.unsupportedPart? <;> rfl
  · rw [apply_ite (List.map Problem.erase)]
    rfl

/-- Without places, the same names are defined. -/
theorem Model.defines_erase (model : Model) (name : String) :
    model.erase.defines name = model.defines name := by
  simp [defines, Function.comp_def]

/-- The check of references sees no place. -/
theorem referenceProblems_erase (model : Model) (m : Message) (f : Field) :
    referenceProblems model.erase m.erase f.erase =
      (referenceProblems model m f).map Problem.erase := by
  simp only [referenceProblems, Field.erase_kind, Model.defines_erase]
  cases f.kind.base with
  | named target =>
    dsimp only
    rw [apply_ite (List.map Problem.erase)]
    rfl
  | primitive p => rfl
  | array element len => rfl
  | unsupported text => rfl

theorem emptinessProblems_erase (m : Message) :
    emptinessProblems m.erase = (emptinessProblems m).map Problem.erase := by
  simp only [emptinessProblems, Message.erase_fields, Message.erase_marker, List.isEmpty_map]
  rw [apply_ite (List.map Problem.erase)]
  rfl

/-! ## Names and enums -/

/-- A list whose values are all replaced by one has the same keys. -/
theorem lookup_map_const {α β : Type} [BEq α] (b : β) (a : α) (xs : List (α × β)) :
    (xs.map fun x => (x.1, b)).lookup a = (xs.lookup a).map fun _ => b := by
  induction xs with
  | nil => rfl
  | cons x xs ih =>
    obtain ⟨k, v⟩ := x
    simp only [List.map_cons, List.lookup_cons, ih]
    cases a == k <;> rfl

theorem Model.typeNames_erase (model : Model) :
    model.erase.typeNames = model.typeNames.map fun x => (x.1, .nowhere) := by
  simp [typeNames, Function.comp_def]

/-- The check of type names finds the same clashes without places. -/
theorem typeNameProblems_erase (seen names : List (String × Location)) :
    typeNameProblems (seen.map fun x => (x.1, .nowhere)) (names.map fun x => (x.1, .nowhere)) =
      (typeNameProblems seen names).map Problem.erase := by
  induction names generalizing seen with
  | nil => rfl
  | cons x names ih =>
    simp only [List.map_cons, typeNameProblems, lookup_map_const]
    split
    · simp [ih, Problem.erase]
    · cases seen.lookup (Naming.typeIdent x.1) with
      | none => exact ih ((Naming.typeIdent x.1, x.2) :: seen)
      | some first => simp [ih, Problem.erase]

/-- The check of field names finds the same clashes without places. -/
theorem fieldNameProblems_erase (owner : String) (seen : List (String × String))
    (fields : List Field) :
    fieldNameProblems owner seen (fields.map Field.erase) =
      (fieldNameProblems owner seen fields).map Problem.erase := by
  induction fields generalizing seen with
  | nil => rfl
  | cons f fields ih =>
    simp only [List.map_cons, fieldNameProblems, Field.erase_name]
    cases seen.lookup (Naming.fieldIdent f.name) with
    | none => exact ih _
    | some first => simp [ih, Problem.erase]

/-- The check of the members of an enum finds the same problems without places. -/
theorem memberProblems_erase (e : Enumeration) (names : List (String × String))
    (values : List (Int × String)) (members : List Member) :
    memberProblems e.erase names values (members.map Member.erase) =
      (memberProblems e names values members).map Problem.erase := by
  induction members generalizing names values with
  | nil => rfl
  | cons m members ih =>
    simp only [List.map_cons, memberProblems, Enumeration.erase_wireWidth, List.map_append,
      Member.erase_name, Member.erase_value]
    congr 1
    · congr 1
      · congr 1
        · cases names.lookup (Naming.typeIdent m.name) <;> rfl
        · rw [apply_ite (List.map Problem.erase)]
          rfl
      · cases values.lookup m.value <;> rfl
    · exact ih _ _

/-- The checks of an enum see no place. -/
theorem enumProblems_erase (e : Enumeration) :
    enumProblems e.erase = (enumProblems e).map Problem.erase := by
  simp only [enumProblems, Enumeration.erase_members, List.isEmpty_map]
  split
  · rfl
  · exact memberProblems_erase e [] [] e.members

/-! ## Nesting -/

/-- A name leads to the same position in the list of messages. -/
theorem Model.indexOf?_erase (model : Model) (name : String) :
    model.erase.indexOf? name = model.indexOf? name :=
  lastIndexOf?_map fun _ => rfl

/-- A message stores the same messages inline. -/
theorem Model.inlineAt_erase (model : Model) (node : Nat) :
    model.erase.inlineAt node = model.inlineAt node := by
  have hindex : model.erase.indexOf? = model.indexOf? := funext model.indexOf?_erase
  simp only [inlineAt, erase_messages, List.getElem?_map, hindex]
  cases model.messages[node]? with
  | none => rfl
  | some m => simp [List.filterMap_map, Function.comp_def]

/-- The search for cycles goes the same way, as it follows positions and names. -/
theorem Model.searchFrom_erase (model : Model) (depth : Nat) :
    model.erase.searchFrom depth = model.searchFrom depth := by
  induction depth with
  | zero => rfl
  | succ depth ih =>
    funext search node
    simp only [searchFrom, inlineAt_erase, ih]

/-- The same cycles are found without places. -/
theorem Model.cycles_erase (model : Model) : model.erase.cycles = model.cycles := by
  simp [cycles, search, searchFrom_erase]

/-- A cycle is reported the same, but for the place. -/
theorem Model.cycleProblem?_erase (model : Model) (cycle : List Nat) :
    model.erase.cycleProblem? cycle = (model.cycleProblem? cycle).map Problem.erase := by
  have hnames : (cycle.filterMap fun n => model.messages[n]?.map Message.erase).map Message.name =
      (cycle.filterMap fun n => model.messages[n]?).map Message.name := by
    simp only [List.map_filterMap, Option.map_map]
    rfl
  simp only [cycleProblem?, erase_messages, List.getElem?_map, hnames]
  cases cycle.getLast? with
  | none => rfl
  | some node =>
    cases h : model.messages[node]? with
    | none => simp [h]
    | some m => simp [h, Problem.erase]

/-- Without places, a name stands for the same message without its place. -/
theorem Model.message?_erase (model : Model) (name : String) :
    model.erase.message? name = (model.message? name).map Message.erase :=
  lookUp?_map fun _ => rfl

/-- The same names take no bytes. -/
theorem Model.nameTakesNothing_erase (model : Model) (depth : Nat) (visiting : List String)
    (name : String) :
    model.erase.nameTakesNothing depth visiting name =
      model.nameTakesNothing depth visiting name := by
  induction depth generalizing visiting name with
  | zero => rfl
  | succ depth ih =>
    have hnamed : model.erase.nameTakesNothing depth (name :: visiting) =
        model.nameTakesNothing depth (name :: visiting) := funext (ih _)
    have hfind : model.erase.messages.find? (fun m => m.name == name) =
        (model.messages.find? fun m => m.name == name).map Message.erase := by
      rw [erase_messages, List.find?_map]
      rfl
    simp only [nameTakesNothing, hfind, hnamed]
    cases model.messages.find? fun m => m.name == name with
    | none => rfl
    | some m => simp [Function.comp_def]

theorem Model.takesNothing_erase (model : Model) (kind : Kind) :
    model.erase.takesNothing kind = model.takesNothing kind := by
  have hnamed : model.erase.nameTakesNothing (model.messages.length + 1) [] =
      model.nameTakesNothing (model.messages.length + 1) [] :=
    funext (model.nameTakesNothing_erase _ _)
  simp [takesNothing, hnamed]

theorem Model.hasEmptyElements_erase (model : Model) (kind : Kind) :
    model.erase.hasEmptyElements kind = model.hasEmptyElements kind := by
  induction kind with
  | array element len ih => cases len <;> simp [hasEmptyElements, takesNothing_erase, ih]
  | primitive p => rfl
  | named name => rfl
  | unsupported text => rfl

theorem elementProblems_erase (model : Model) (m : Message) (f : Field) :
    elementProblems model.erase m.erase f.erase =
      (elementProblems model m f).map Problem.erase := by
  simp only [elementProblems, Field.erase_kind, Model.hasEmptyElements_erase]
  rw [apply_ite (List.map Problem.erase)]
  rfl

/-! ## All checks -/

/-- The problems of a model without places are its problems without places. -/
theorem Model.problems_erase (model : Model) :
    model.erase.problems = model.problems.map Problem.erase := by
  have hids := idProblems_erase [] model.messages
  have hnames := typeNameProblems_erase [] model.typeNames
  rw [List.map_nil] at hids hnames
  simp only [problems, List.map_append, model.eachField_erase kindProblems_erase,
    model.eachField_erase (referenceProblems_erase model),
    model.eachField_erase (elementProblems_erase model), typeNames_erase, cycles_erase,
    erase_messages, erase_enums, hids, hnames, List.flatMap_map, List.map_flatMap,
    List.map_filterMap, emptinessProblems_erase, fieldNameProblems_erase, Message.erase_name,
    Message.erase_fields, enumProblems_erase, funext model.cycleProblem?_erase]

/-- A schema without the places and namespaces of its definitions. -/
def Schema.erase (s : Schema) : Schema :=
  ⟨s.model.erase, by rw [Model.problems_erase, s.valid, List.map_nil]⟩

end WireSchema
