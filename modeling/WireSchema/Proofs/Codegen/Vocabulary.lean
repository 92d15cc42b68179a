import WireSchema.Proofs.Codegen.Erasure
import WireSchema.Proofs.Codegen.RegistryTable
import WireSchema.Proofs.Naming
import WireSchema.Proofs.Session.Meaning

/-!
# The words of generated code

Generated code is put together from texts of a schema and from texts of its own. The capitalized
words of the latter are a fixed vocabulary (`fragments_composed`): types and traits that the code
relies on, and words with a meaning that the definition of a type cannot change.

The types of a schema leave the names that the code relies on alone, with one exception
(`typeIdent_mem_reliedNames_iff`).
-/

namespace WireSchema.Codegen

open WireSchema.Naming

/-! ## Vocabulary -/

/-- The types and traits that generated code relies on. -/
def reliedNames : List String :=
  runtimeItems ++ ["AnyMessage", "Option", "Result", "Vec", "String", "Self", "From"]

/-- The other capitalized words: what is derived, variants, constants, and words of comments. -/
def otherWords : List String :=
  ["Debug", "Clone", "Copy", "PartialEq", "Eq", "Hash", "Some", "None", "Ok", "W8", "W16", "W32",
   "W64", "ID", "NAME", "WIDTH", "REGISTRY", "REGISTRY_ENTRIES", "Message", "Any", "Decodes",
   "Identifier"]

/-- The words among some characters that begin with a capital letter. -/
def capitalWords (text : List Char) : List String :=
  let words := text.splitOnP fun c => ¬IsWordChar c
  (words.filter fun word => word.head?.any Char.isUpper).map String.ofList

/-- Are all capitalized words in the vocabulary? -/
def isOwn (text : List Char) : Bool :=
  (capitalWords text).all (reliedNames ++ otherWords).contains

/-- Texts that come from a schema or from the path of the runtime. -/
inductive Given (s : Schema) (path : String) : String → Prop
  | path : Given s path path
  | name {name : String} (h : name ∈ s.model.allNames) : Given s path name
  | quoted {name : String} (h : name ∈ s.model.allNames) : Given s path (Text.jsonString name)
  | type {name : String} (h : name ∈ s.model.allNames) : Given s path (typeIdent name)
  | reader {name : String} (h : name ∈ s.model.allNames) : Given s path (snake (typeIdent name))
  | member {e : Enumeration} {m : Member} (he : e ∈ s.enums) (hm : m ∈ e.members) :
    Given s path (typeIdent m.name)
  | field {m : Message} {f : Field} (hm : m ∈ s.messages) (hf : f ∈ m.fields) :
    Given s path (fieldIdent f.name)
  | nat (n : Nat) : Given s path (toString n)
  | int (n : Int) : Given s path (toString n)

/-- Texts that are put together from what is given and from texts with the vocabulary. -/
inductive Composed (s : Schema) (path : String) : String → Prop
  | own {text : List Char} (h : isOwn text = true) : Composed s path (String.ofList text)
  | given {text : String} (h : Given s path text) : Composed s path text
  | append {a b : String} (ha : Composed s path a) (hb : Composed s path b) :
    Composed s path (a ++ b)

/-- All texts are put together so. -/
def AllComposed (s : Schema) (path : String) (texts : List String) : Prop :=
  ∀ text ∈ texts, Composed s path text

section

variable {s : Schema} {path : String}

/-- A composed text stays composed between words of the generator. A literal is the text of its
    characters, so `rfl` proves `isOwn` of those in the code. -/
theorem Composed.between {text : String} (h : Composed s path text) {before after : List Char}
    (hbefore : isOwn before = true) (hafter : isOwn after = true) :
    Composed s path (String.ofList before ++ text ++ String.ofList after) :=
  ((own hbefore).append h).append (own hafter)

theorem allComposed_nil : AllComposed s path [] := nofun

theorem allComposed_singleton {text : String} :
    AllComposed s path [text] ↔ Composed s path text :=
  List.forall_mem_singleton

theorem allComposed_cons {text : String} {texts : List String} :
    AllComposed s path (text :: texts) ↔ Composed s path text ∧ AllComposed s path texts :=
  List.forall_mem_cons

/-- Two runs of texts are composed together if each of them is. -/
theorem allComposed_append {texts texts' : List String} :
    AllComposed s path (texts ++ texts') ↔ AllComposed s path texts ∧ AllComposed s path texts' :=
  List.forall_mem_append

/-- Texts that are made one by one are composed if each of them is. -/
theorem allComposed_map {α : Type} {f : α → String} {items : List α} :
    AllComposed s path (items.map f) ↔ ∀ x ∈ items, Composed s path (f x) :=
  List.forall_mem_map

/-- Texts that are made in runs are composed if each run is. -/
theorem allComposed_flatMap {α : Type} {f : α → List String} {items : List α} :
    AllComposed s path (items.flatMap f) ↔ ∀ x ∈ items, AllComposed s path (f x) :=
  List.forall_mem_flatMap

/-- Composed texts may be joined by a composed separator. -/
theorem Composed.intercalate {sep : String} (hsep : Composed s path sep) {texts : List String}
    (h : AllComposed s path texts) : Composed s path (sep.intercalate texts) := by
  induction texts with
  | nil => exact (.own rfl : Composed s path "")
  | cons first rest ih =>
    obtain ⟨hfirst, hrest⟩ := allComposed_cons.1 h
    cases rest with
    | nil => simpa using hfirst
    | cons second rest =>
      rw [String.intercalate_cons_cons]
      exact (hfirst.append hsep).append (ih hrest)

/-- Composed lines make a composed text. -/
theorem AllComposed.join {lines : List String} (h : AllComposed s path lines) :
    Composed s path (joinLines lines) :=
  .intercalate (.own rfl) h

/-! ## Imports and enums -/

/-- The name of an enum is a name of the schema. -/
theorem mem_allNames_of_enum {e : Enumeration} (he : e ∈ s.enums) : e.name ∈ s.model.allNames :=
  List.mem_append_left _ (List.mem_map_of_mem he)

/-- The name of a message is a name of the schema. -/
theorem mem_allNames_of_message {m : Message} (hm : m ∈ s.messages) : m.name ∈ s.model.allNames :=
  List.mem_append_right _ (List.mem_map_of_mem hm)

/-- The names of the integer widths are words of the generator. -/
theorem width_composed (w : Width) :
    Composed s path w.unsignedName ∧ Composed s path (widthTag w) := by
  cases w <;> exact ⟨.own rfl, .own rfl⟩

/-- The names of the primitive types are words of the generator. -/
theorem primitive_composed (p : Primitive) :
    Composed s path p.name ∧ Composed s path (primitiveType p) := by
  cases p with
  | int type =>
    obtain ⟨signed, width⟩ := type
    cases signed <;> cases width <;> exact ⟨.own rfl, .own rfl⟩
  | single | double | bool | string => exact ⟨.own rfl, .own rfl⟩

/-- The imports hold the words of the generator and the path of the runtime. -/
theorem importCode_composed : Composed s path (importCode path) := by
  have hitems : Composed s path (", ".intercalate runtimeItems) := by
    refine .intercalate (.own rfl) ?_
    simp only [runtimeItems, allComposed_cons, allComposed_nil, and_true]
    and_intros <;> exact .own rfl
  have hpath : Composed s path path := .given .path
  exact ((hpath.between rfl rfl).append hitems).append (.own rfl)

/-- The code of an enum holds its name, those of its members, and words of the generator. -/
theorem enumCode_composed {e : Enumeration} (he : e ∈ s.enums) : Composed s path (enumCode e) := by
  have hname : Composed s path (typeIdent e.name) := .given (.type (mem_allNames_of_enum he))
  have hquoted : Composed s path (Text.jsonString e.name) :=
    .given (.quoted (mem_allNames_of_enum he))
  obtain ⟨hunsigned, htag⟩ := width_composed e.wireWidth
  refine AllComposed.join ?_
  simp only [allComposed_append, allComposed_map, allComposed_cons, allComposed_nil, and_true]
  refine ⟨⟨⟨⟨?_, fun m hm => ?_⟩, ?_⟩, fun m hm => ?_⟩, ?_⟩
  · exact ⟨.own rfl, hunsigned.between rfl rfl, hname.between rfl rfl⟩
  · have hmember : Composed s path (typeIdent m.name) := .given (.member he hm)
    exact ((hmember.between rfl rfl).append (.given (.int _))).append (.own rfl)
  · refine ⟨.own rfl, .own rfl, hname.between rfl rfl, hquoted.between rfl rfl,
      htag.between rfl rfl, ?_⟩
    and_intros <;> exact .own rfl
  · have hmember : Composed s path (typeIdent m.name) := .given (.member he hm)
    have hvalue : Composed s path (toString m.value) := .given (.int _)
    have hvariant : Composed s path (s!"            {m.value} => Some({typeIdent e.name}") :=
      (hvalue.between rfl rfl).append hname
    exact ((hvariant.append (.own rfl)).append hmember).append (.own rfl)
  · and_intros <;> exact .own rfl

/-! ## Messages -/

/-- A name that the schema knows is that of one of its definitions. -/
theorem mem_allNames_of_knows {name : String} (h : s.Knows (.named name)) :
    name ∈ s.model.allNames :=
  List.mem_append.2 h.defines.symm

/-- The type of a field whose kind is known is composed. -/
theorem typeCode_composed {kind : Kind} (h : s.Knows kind) :
    Composed s path (typeCode s kind) := by
  induction kind with
  | primitive p => exact (primitive_composed p).2
  | array element len ih =>
    cases len with
    | counted => exact (ih h).between rfl rfl
    | fixed n =>
      have hlen : Composed s path (toString n) := .given (.nat n)
      exact (Composed.append (.own rfl) (ih h)).append (hlen.between rfl rfl)
  | named name =>
    rw [typeCode]
    split
    · next e he =>
      have hname : Composed s path (typeIdent e.name) :=
        .given (.type (mem_allNames_of_enum (Schema.mem_enums_of_resolve? he).1))
      exact hname.between rfl rfl
    · exact .given (.type (mem_allNames_of_knows h))
  | unsupported text => exact absurd h Schema.not_knows_unsupported

/-- An indentation is made of blanks. -/
theorem pad_composed (level : Nat) : Composed s path (pad level) := by
  induction level with
  | zero => exact (.own rfl : Composed s path "")
  | succ level ih =>
    rw [pad, Nat.mul_succ, List.replicate_add, String.ofList_append]
    exact ih.append (.own rfl)

/-- The code that reaches the value is put together so, whichever way it is reached. -/
def Access.Composed (s : Schema) (path : String) (access : Access) : Prop :=
  Codegen.Composed s path access.byValue ∧ Codegen.Composed s path access.byRef ∧
    Codegen.Composed s path access.receiver

theorem Access.composed_item : Access.item.Composed s path :=
  ⟨.own rfl, .own rfl, .own rfl⟩

/-- The access to a field is composed if the identifier of the field is. -/
theorem Access.composed_field {ident : String} (h : Codegen.Composed s path ident) :
    (Access.field ident).Composed s path :=
  ⟨.append (.own rfl) h, .append (.own rfl) h, .append (.own rfl) h⟩

/-- The lines that write a value of a known kind are composed, whatever they are indented by. -/
theorem writeLines_composed {kind : Kind} (h : s.Knows kind) {access : Access}
    (haccess : access.Composed s path) (level : Nat) :
    AllComposed s path (writeLines s access level kind) := by
  induction kind generalizing access level with
  | primitive p =>
    obtain ⟨hvalue, hreference, -⟩ := haccess
    have hpad : Composed s path (pad level) := pad_composed level
    cases p with
    | string => exact allComposed_singleton.2 (hpad.append (hreference.between rfl rfl))
    | int | single | double | bool =>
      refine allComposed_singleton.2 (hpad.append ?_)
      exact (((primitive_composed _).1.between rfl rfl).append hvalue).append (.own rfl)
  | array element len ih =>
    obtain ⟨-, hreference, -⟩ := haccess
    have hpad : Composed s path (pad level) := pad_composed level
    -- The line that opens the loop over the items, whichever method it calls.
    have hopen (method : String) (hmethod : Composed s path method) :
        Composed s path s!"buf.{method}({access.byRef}, |buf, item| \x7b" :=
      ((hmethod.between rfl rfl).append hreference).append (.own rfl)
    cases len <;>
    · simp only [writeLines, allComposed_append, allComposed_cons, allComposed_nil, and_true]
      exact ⟨⟨hpad.append (hopen _ (.own rfl)), ih h Access.composed_item (level + 1)⟩,
        hpad.append (.own rfl), hpad.append (.own rfl)⟩
  | named name =>
    obtain ⟨hvalue, -, hreceiver⟩ := haccess
    have hpad : Composed s path (pad level) := pad_composed level
    rw [writeLines]
    split
    · exact allComposed_singleton.2 (hpad.append (hvalue.between rfl rfl))
    · exact allComposed_singleton.2 (hpad.append (hreceiver.append (.own rfl)))
  | unsupported text => exact absurd h Schema.not_knows_unsupported

/-- The code that reads a value of a known kind is composed. -/
theorem readCode_composed {kind : Kind} (h : s.Knows kind) :
    Composed s path (readCode s kind) := by
  induction kind with
  | primitive p => exact (primitive_composed p).1.between rfl rfl
  | array element len ih =>
    cases len with
    | counted =>
      have hsize : Composed s path (toString (s.minSize element)) := .given (.nat _)
      rw [readCode_counted]
      exact ((hsize.between rfl rfl).append (ih h)).append (.own rfl)
    | fixed n =>
      rw [readCode_fixed]
      exact (ih h).between rfl rfl
  | named name =>
    rw [readCode_named]
    split
    · exact .own rfl
    · exact .append (.given (.type (mem_allNames_of_knows h))) (.own rfl)
  | unsupported text => exact absurd h Schema.not_knows_unsupported

section

variable {m : Message} (hm : m ∈ s.messages)
include hm

theorem typeIdent_composed : Composed s path (typeIdent m.name) :=
  .given (.type (mem_allNames_of_message hm))

/-- The struct of a message holds the identifiers of its fields and their types. -/
theorem structLines_composed : AllComposed s path (structLines s m) := by
  have hname : Composed s path (typeIdent m.name) := typeIdent_composed hm
  have hplain : Composed s path m.name := .given (.name (mem_allNames_of_message hm))
  have hid : Composed s path (toString m.id.toNat) := .given (.nat _)
  have hhead : Composed s path s!"/// Message `{m.name}`, identifier {m.id.toNat}." :=
    ((hplain.between rfl rfl).append hid).append (.own rfl)
  rw [structLines]
  split
  · simp only [allComposed_append, allComposed_cons, allComposed_nil, and_true]
    exact ⟨⟨hhead, .own rfl⟩, hname.between rfl rfl⟩
  · simp only [allComposed_append, allComposed_map, allComposed_cons, allComposed_nil, and_true]
    refine ⟨⟨hhead, .own rfl⟩, ⟨hname.between rfl rfl, fun f hf => ?_⟩, .own rfl⟩
    have hfield : Composed s path (fieldIdent f.name) := .given (.field hm hf)
    have htype : Composed s path (typeCode s f.kind) :=
      typeCode_composed (Schema.knows_of_mem hm hf)
    exact ((hfield.between rfl rfl).append htype).append (.own rfl)

theorem encodeLines_composed : AllComposed s path (encodeLines s m) := by
  rw [encodeLines]
  split
  · simp only [allComposed_append, allComposed_cons, allComposed_nil, and_true]
    exact ⟨⟨.append (.append (.own rfl) (.own rfl)) (.own rfl), .own rfl⟩, .own rfl⟩
  · simp only [allComposed_append, allComposed_flatMap, allComposed_cons, allComposed_nil, and_true]
    refine ⟨⟨.append (.append (.own rfl) (.own rfl)) (.own rfl), ⟨.own rfl, fun f hf => ?_⟩,
      .own rfl, .own rfl⟩, .own rfl⟩
    exact writeLines_composed (Schema.knows_of_mem hm hf)
      (Access.composed_field (.given (.field hm hf))) 3

theorem decodeLines_composed : AllComposed s path (decodeLines s m) := by
  rw [decodeLines]
  split
  · simp only [allComposed_append, allComposed_cons, allComposed_nil, and_true]
    exact ⟨⟨.append (.append (.own rfl) (.own rfl)) (.own rfl), .own rfl⟩, .own rfl⟩
  · simp only [allComposed_append, allComposed_map, allComposed_cons, allComposed_nil, and_true]
    refine ⟨⟨.append (.append (.own rfl) (.own rfl)) (.own rfl), ⟨.own rfl, fun f hf => ?_⟩,
      .own rfl⟩, .own rfl⟩
    have hfield : Composed s path (fieldIdent f.name) := .given (.field hm hf)
    have hread : Composed s path (readCode s f.kind) :=
      readCode_composed (Schema.knows_of_mem hm hf)
    exact ((hfield.between rfl rfl).append hread).append (.own rfl)

/-- All the code of a message is composed. -/
theorem messageCode_composed : Composed s path (messageCode s m) := by
  have hname : Composed s path (typeIdent m.name) := typeIdent_composed hm
  have hquoted : Composed s path (Text.jsonString m.name) :=
    .given (.quoted (mem_allNames_of_message hm))
  have hid : Composed s path (toString m.id.toNat) := .given (.nat _)
  refine AllComposed.join ?_
  simp only [allComposed_append, allComposed_cons, allComposed_nil, and_true]
  exact ⟨⟨⟨⟨⟨structLines_composed hm, .own rfl, hname.between rfl rfl, hid.between rfl rfl,
    hquoted.between rfl rfl, .own rfl⟩, encodeLines_composed hm⟩, .own rfl⟩,
    decodeLines_composed hm⟩, .own rfl⟩

end

/-! ## The registry -/

/-- A match over all messages is composed if its arms make composed texts of composed names. -/
theorem matchLines_composed {arm : String → String}
    (harm : ∀ name, Composed s path name → Composed s path (arm name)) :
    AllComposed s path (matchLines s arm) := by
  rw [matchLines]
  split
  · exact allComposed_singleton.2 (.own rfl)
  · simp only [allComposed_append, allComposed_map, allComposed_cons, allComposed_nil, and_true]
    exact ⟨⟨.own rfl, fun m hm => .append (.own rfl) (harm _ (typeIdent_composed hm))⟩, .own rfl⟩

theorem unionLines_composed : AllComposed s path (unionLines s) := by
  have hid (name : String) (h : Composed s path name) :
      Composed s path s!"AnyMessage::{name}(_) => {name}::ID," :=
    ((h.between rfl rfl).append h).append (.own rfl)
  have hname (name : String) (h : Composed s path name) :
      Composed s path s!"AnyMessage::{name}(_) => {name}::NAME," :=
    ((h.between rfl rfl).append h).append (.own rfl)
  have hencode (name : String) (h : Composed s path name) :
      Composed s path s!"AnyMessage::{name}(ref message) => message.encode(buf)," :=
    h.between rfl rfl
  have hbuf : Composed s path (if s.messages.isEmpty then "_buf" else "buf") := by
    split <;> exact .own rfl
  simp only [unionLines, allComposed_append, allComposed_map, allComposed_cons, allComposed_nil,
    and_true]
  refine ⟨⟨⟨⟨⟨⟨⟨⟨?_, fun m hm => ?_⟩, ?_⟩, matchLines_composed hid⟩, ?_⟩,
    matchLines_composed hname⟩, .own rfl, .own rfl, hbuf.between rfl rfl⟩,
    matchLines_composed hencode⟩, ?_⟩
  · exact ⟨.own rfl, .own rfl, .own rfl⟩
  · have hmessage : Composed s path (typeIdent m.name) := typeIdent_composed hm
    exact ((hmessage.between rfl rfl).append hmessage).append (.own rfl)
  · exact ⟨.own rfl, .own rfl, .own rfl, .own rfl⟩
  · exact ⟨.own rfl, .own rfl, .own rfl⟩
  · and_intros <;> exact .own rfl

section

variable {m : Message} (hm : m ∈ s.messages)
include hm

theorem conversionLines_composed : AllComposed s path (conversionLines m) := by
  have hname : Composed s path (typeIdent m.name) := typeIdent_composed hm
  simp only [conversionLines, allComposed_cons, allComposed_nil, and_true]
  exact ⟨.own rfl, hname.between rfl rfl, hname.between rfl rfl, hname.between rfl rfl, .own rfl,
    .own rfl⟩

theorem readerName_composed : Composed s path (readerName m) := by
  have hsnake : Composed s path (snake (typeIdent m.name)) :=
    .given (.reader (mem_allNames_of_message hm))
  exact (hsnake.between rfl rfl).append (.given (.nat _))

theorem readerLines_composed : AllComposed s path (readerLines m) := by
  have hname : Composed s path (typeIdent m.name) := typeIdent_composed hm
  simp only [readerLines, allComposed_cons, allComposed_nil, and_true]
  have hreader : Composed s path (readerName m) := readerName_composed hm
  exact ⟨.own rfl, hreader.between rfl rfl,
    ((hname.between rfl rfl).append hname).append (.own rfl), .own rfl⟩

theorem rowLine_composed : Composed s path (rowLine m) := by
  have hid : Composed s path (toString m.id.toNat) := .given (.nat _)
  have hquoted : Composed s path (Text.jsonString m.name) :=
    .given (.quoted (mem_allNames_of_message hm))
  have hreader : Composed s path (readerName m) := readerName_composed hm
  exact (((hid.between rfl rfl).append hquoted).append (.own rfl)).append (hreader.between rfl rfl)

end

theorem tableLines_composed {table : List Message} (h : ∀ m ∈ table, m ∈ s.messages) :
    AllComposed s path (tableLines table) := by
  have hlength : Composed s path (toString table.length) := .given (.nat _)
  simp only [tableLines, allComposed_append, allComposed_map, allComposed_cons, allComposed_nil,
    and_true]
  exact ⟨⟨⟨.own rfl, hlength.between rfl rfl⟩, fun m hm => rowLine_composed (h m hm)⟩, .own rfl,
    .own rfl, .own rfl, .own rfl⟩

theorem registryCode_composed {code : String} (h : registryCode s = .ok code) :
    Composed s path code := by
  have htable : ∀ m ∈ registryTable s, m ∈ s.messages := fun m => (registryTable_perm s).mem_iff.1
  rw [registryCode, ambiguity?_of_ascending (registryTable_ascending s)] at h
  rw [← Except.ok.inj h]
  refine AllComposed.join ?_
  simp only [allComposed_append, allComposed_flatMap]
  exact ⟨⟨⟨unionLines_composed, fun m hm => conversionLines_composed hm⟩,
    fun m hm => readerLines_composed (htable m hm)⟩, tableLines_composed htable⟩

/-! ## Files -/

/-- What is generated from a schema is put together from texts of the schema and from texts with the
    vocabulary. -/
theorem fragments_composed {parts : List String} (h : fragments s path = .ok parts) :
    AllComposed s path parts := by
  obtain ⟨code, hcode⟩ := registryCode_isOk s
  rw [fragments, hcode] at h
  cases h
  simp only [allComposed_append, allComposed_map, allComposed_singleton]
  exact ⟨⟨⟨importCode_composed, fun e he => enumCode_composed he⟩,
    fun m hm => messageCode_composed hm⟩, registryCode_composed hcode⟩

end

/-- Code is generated from every schema, with a fixed vocabulary beside the texts of the schema. Of
    the names that the code relies on, a type of the schema can take `From` and no other. -/
theorem typeIdent_mem_reliedNames_iff (s : Schema) (path : String) :
    (∃ parts, fragments s path = .ok parts ∧ ∀ part ∈ parts, Composed s path part) ∧
      ∀ name ∈ s.model.allNames, typeIdent name ∈ reliedNames ↔ typeIdent name = "From" := by
  constructor
  · obtain ⟨parts, hparts⟩ := fragments_isOk s path
    exact ⟨parts, hparts, fragments_composed hparts⟩
  · intro name hname
    have hreserved : ∀ ident ∈ reliedNames, ident = "From" ∨ ident ∈ reservedNames := by
      decide +kernel
    have hfree := (s.wellFormed.types_free name hname).2
    constructor
    · intro hrelied
      exact (hreserved _ hrelied).resolve_right hfree
    · intro hfrom
      rw [hfrom]
      decide +kernel

/-- A text with a message whose name is close to one that code relies on. -/
def resultsText : String :=
  "message results = 1 \x7b u8 x; \x7d"

/-- A message `results` is close to a name that the code relies on, and is not it. -/
theorem typeIdent_mem_reliedNames_iff_resultsText :
    ∃ schema, compileText resultsText = .ok schema ∧ "results" ∈ schema.model.allNames ∧
      typeIdent "results" = "Results" ∧ typeIdent "results" ∉ reliedNames := by
  have hview : (compileText resultsText).toOption.map (·.model.allNames) = some ["results"] := by
    decide +kernel
  obtain ⟨schema, hschema, hnames⟩ := exists_schema_of_view hview
  have hmem : "results" ∈ schema.model.allNames := hnames ▸ List.mem_cons_self
  have hident : typeIdent "results" = "Results" := by decide +kernel
  refine ⟨schema, hschema, hmem, hident, fun hrelied => ?_⟩
  have hfrom := ((typeIdent_mem_reliedNames_iff schema "netmsg").2 "results" hmem).1 hrelied
  exact absurd (hident.symm.trans hfrom) (by decide)

/-- A text with a message that is called `From`. -/
def fromText : String :=
  "message From = 1 \x7b u8 x; \x7d"

/-- A message that is called `From` is accepted. Its struct then stands where code means the
    trait. -/
theorem struct_takes_from :
    ∃ schema, compileText fromText = .ok schema ∧
      ∃ m ∈ schema.messages, typeIdent m.name ∈ reliedNames ∧
        "pub struct From \x7b" ∈ structLines schema m ∧
        "impl From<From> for AnyMessage \x7b" ∈ conversionLines m := by
  have hview : (compileText fromText).toOption.map (fun s => s.messages.map fun m =>
      (typeIdent m.name, (structLines s m).contains "pub struct From \x7b",
        (conversionLines m).contains "impl From<From> for AnyMessage \x7b")) =
      some [("From", true, true)] := by
    decide +kernel
  obtain ⟨schema, hschema, hmessages⟩ := exists_schema_of_view hview
  simp only [List.map_eq_singleton_iff, Prod.mk.injEq, List.contains_iff_mem] at hmessages
  obtain ⟨m, hmessages, hident, hstruct, hconversion⟩ := hmessages
  refine ⟨schema, hschema, m, hmessages ▸ List.mem_cons_self, ?_, hstruct, hconversion⟩
  rw [hident]
  decide +kernel

end WireSchema.Codegen
