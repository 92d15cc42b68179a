import WireSchema.Proofs.Schema.WellFormed

/-!
# Names, identifiers and ranks in a schema

A schema is well formed, so a name stands for at most one message, and so does an identifier, the
fields of a message have distinct names, and messages can be ranked above all that they store
inline.
-/

namespace WireSchema

namespace Schema

variable {s : Schema}

/-- No two messages of a schema share a name. -/
theorem nodup_names (s : Schema) : (s.messages.map Message.name).Nodup :=
  Model.nodup_names s.wellFormed.types_distinct

/-- No two enums of a schema share a name. -/
theorem nodup_enumNames (s : Schema) : (s.enums.map Enumeration.name).Nodup := by
  have hnodup : s.model.allNames.Nodup := s.wellFormed.types_distinct.of_map
  exact (List.nodup_append.1 hnodup).1

theorem message?_eq_some {name : String} {m : Message} (h : s.message? name = some m) :
    m ∈ s.messages ∧ m.name = name :=
  Model.message?_eq_some h

/-- A message is what its name stands for. -/
theorem message?_of_mem {m : Message} (hm : m ∈ s.messages) : s.message? m.name = some m :=
  Model.message?_of_mem s.nodup_names hm

/-- The name of a message resolves to it, and not to an enum. -/
theorem resolve?_of_mem {m : Message} (hm : m ∈ s.messages) :
    s.resolve? m.name = some (.message m) := by
  rw [resolve?, Model.resolve?, Model.message?_of_mem s.nodup_names hm]

/-- No enum has the name of a message, so an enum is found by its name too. -/
theorem resolve?_enumeration_of_mem {t : Enumeration} (ht : t ∈ s.enums) :
    s.resolve? t.name = some (.enumeration t) := by
  have hnodup : s.model.allNames.Nodup := s.wellFormed.types_distinct.of_map
  obtain ⟨-, -, hdisjoint⟩ := List.nodup_append.1 hnodup
  have hmessage : s.model.message? t.name = none := by
    cases hm : s.model.message? t.name with
    | none => rfl
    | some m =>
      obtain ⟨hmem, hname⟩ := Model.message?_eq_some hm
      exact absurd hname.symm
        (hdisjoint _ (List.mem_map_of_mem ht) _ (List.mem_map_of_mem hmem))
  have henum : s.model.enumeration? t.name = some t := lookUp?_of_mem s.nodup_enumNames ht
  rw [resolve?, Model.resolve?, hmessage, henum]
  rfl

/-- Names that are defined can be resolved. -/
theorem resolve?_isSome {name : String} (h : s.model.Defines name) : s.resolve? name ≠ none := by
  rcases h with h | h
  · obtain ⟨m, hm, rfl⟩ := List.mem_map.1 h
    rw [resolve?_of_mem hm]
    nofun
  · obtain ⟨t, ht, rfl⟩ := List.mem_map.1 h
    rw [resolve?_enumeration_of_mem ht]
    nofun

/-- A name that stands for a message is its name. -/
theorem mem_of_resolve? {name : String} {m : Message} (h : s.resolve? name = some (.message m)) :
    m ∈ s.messages ∧ m.name = name := by
  rw [resolve?, Model.resolve?] at h
  cases hm : s.model.message? name with
  | none =>
    rw [hm] at h
    obtain ⟨e, -, he⟩ := Option.map_eq_some_iff.1 h
    cases he
  | some m' =>
    rw [hm] at h
    cases h
    exact Model.message?_eq_some hm

/-- A name that stands for an enum is its name. -/
theorem mem_enums_of_resolve? {name : String} {e : Enumeration}
    (h : s.resolve? name = some (.enumeration e)) : e ∈ s.enums ∧ e.name = name := by
  rw [resolve?, Model.resolve?] at h
  cases hm : s.model.message? name with
  | some m =>
    rw [hm] at h
    cases h
  | none =>
    rw [hm] at h
    obtain ⟨e', he, heq⟩ := Option.map_eq_some_iff.1 h
    cases heq
    exact lookUp?_eq_some he

/-- An enum is what its name stands for. -/
theorem enumeration?_of_mem {e : Enumeration} (he : e ∈ s.enums) :
    s.enumeration? e.name = some e :=
  lookUp?_of_mem s.nodup_enumNames he

/-- No two fields of a message share a name. -/
theorem nodup_fields {m : Message} (hm : m ∈ s.messages) : (m.fields.map Field.name).Nodup := by
  have h := s.wellFormed.fields_distinct m hm
  rw [← Function.comp_def Naming.fieldIdent Field.name, ← List.map_map] at h
  exact h.of_map

/-! ## Identifiers -/

section

variable {m : Message} {id : UInt32}

/-- In a schema, the identifier on the wire is the written one. -/
theorem toNat_id (hm : m ∈ s.messages) : (m.id.toNat : Int) = m.identifier := by
  obtain ⟨hnonneg, hle⟩ := s.wellFormed.ids_fit m hm
  have hpow : Nat.pow 2 32 = 4294967296 := rfl
  have hlt : m.identifier.toNat < 4294967296 := by omega
  rw [Message.id, if_pos (isWireId_iff.2 ⟨hnonneg, hle⟩), UInt32.toNat_ofNat_of_lt' hlt]
  exact Int.toNat_of_nonneg hnonneg

/-- The identifier on the wire is the one that is written. -/
theorem id_eq_iff (hm : m ∈ s.messages) : m.id = id ↔ m.identifier = id.toNat := by
  rw [← toNat_id hm, Int.natCast_inj, UInt32.toNat_inj]

/-- No two messages share an identifier on the wire. -/
theorem nodup_ids (s : Schema) : (s.messages.map Message.id).Nodup := by
  refine List.Nodup.map_on (fun a ha b hb hab => ?_) s.wellFormed.ids_distinct.of_map
  have hidentifier : a.identifier = b.identifier := by rw [← toNat_id ha, ← toNat_id hb, hab]
  exact List.inj_on_of_nodup_map s.wellFormed.ids_distinct ha hb hidentifier

/-- Under an identifier stands the one message that has it. -/
theorem messageById?_eq_some_iff : s.messageById? id = some m ↔ m ∈ s.messages ∧ m.id = id := by
  refine ⟨lookUp?_eq_some, ?_⟩
  rintro ⟨hm, rfl⟩
  exact lookUp?_of_mem s.nodup_ids hm

end

/-! ## Ranks -/

/-- Messages rank above all that they store inline. -/
structure IsRanking (s : Schema) (rank : String → Nat) : Prop where
  lt : ∀ m ∈ s.messages, rank m.name < s.messages.length
  down : ∀ a ∈ s.messages, ∀ b ∈ s.messages, ∀ f ∈ a.fields, f.kind.Stores b.name →
    rank b.name < rank a.name

/-- As no message stores itself, messages can be ranked above those they store. -/
theorem exists_isRanking (s : Schema) : ∃ rank, s.IsRanking rank := by
  have hcycles := (Model.cycles_eq_nil_iff s.nodup_names).2 s.wellFormed.acyclic
  obtain ⟨rank, hlt, hdown⟩ := Model.exists_nameRank s.nodup_names hcycles
  exact ⟨rank, hlt, fun a ha b hb f hf hstores => hdown a b ⟨ha, hb, f, hf, hstores⟩⟩

/-! ## Kinds of fields -/

/-- The innermost part of a kind is a primitive or a type of the schema. -/
def Knows (s : Schema) (kind : Kind) : Prop :=
  (∃ p, kind.base = .primitive p) ∨ ∃ name, kind.base = .named name ∧ s.model.Defines name

/-- The types of all fields are known. -/
theorem knows_of_mem {m : Message} (hm : m ∈ s.messages) {f : Field} (hf : f ∈ m.fields) :
    s.Knows f.kind :=
  s.wellFormed.bases_known m hm f hf

theorem not_knows_unsupported {text : String} : ¬s.Knows (.unsupported text) := by
  rintro (⟨p, hp⟩ | ⟨name, hname, -⟩)
  · cases hp
  · cases hname

/-- A name that is known is defined. -/
theorem Knows.defines {name : String} (h : s.Knows (.named name)) : s.model.Defines name := by
  rcases h with ⟨p, hp⟩ | ⟨name', hname, hdefines⟩
  · cases hp
  · cases hname
    exact hdefines

/-- What a reader asks of a kind: the wire can hold its parts, and the elements of its counted
    arrays take bytes. -/
structure Admits (s : Schema) (kind : Kind) : Prop where
  supported : ∀ k ∈ kind.parts, k.Supported
  elements_weigh : ∀ element, .array element .counted ∈ kind.parts → ¬s.model.Weightless element

/-- The kinds of all fields are admitted. -/
theorem admits_of_mem {m : Message} (hm : m ∈ s.messages) {f : Field} (hf : f ∈ m.fields) :
    s.Admits f.kind :=
  ⟨s.wellFormed.parts_supported m hm f hf, s.wellFormed.elements_weigh m hm f hf⟩

theorem admits_named (name : String) : s.Admits (.named name) := by
  refine ⟨?_, ?_⟩ <;> simp [Kind.parts, Kind.Supported]

/-- An array is admitted together with its elements. -/
theorem Admits.element {element : Kind} {len : ArrayLen} (h : s.Admits (.array element len)) :
    s.Admits element :=
  ⟨fun k hk => h.supported k (List.mem_cons_of_mem _ hk),
    fun k hk => h.elements_weigh k (List.mem_cons_of_mem _ hk)⟩

end Schema

end WireSchema
