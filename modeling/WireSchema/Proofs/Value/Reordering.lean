import WireSchema.Proofs.Codegen.RegistryTable
import WireSchema.Proofs.Game.Schema
import WireSchema.Proofs.Value.SameWire

/-!
# The order of definitions

The order in which the enums and messages of a model are defined makes no difference to the wire
format: a model in another order passes the checks if and only if it does in this one, and values
are encoded and decoded alike (`encode_of_reorders`).

The checks go through a model in its order, and what they report hangs on it: which of two messages
is the one that reuses an identifier, and where a circle is closed. But what they ask for as a
whole, `Model.WellFormed`, speaks of members of lists and of lists without repetition only. And in a
schema names and identifiers are unique, so every look-up has one outcome at most.
-/

namespace WireSchema

/-- The same enums and messages, maybe in another order. -/
structure Model.Reorders (model model' : Model) : Prop where
  enums : model.enums.Perm model'.enums
  messages : model.messages.Perm model'.messages

namespace Model.Reorders

variable {model model' : Model}

theorem symm (h : model.Reorders model') : model'.Reorders model :=
  ⟨h.enums.symm, h.messages.symm⟩

/-! ## Checks -/

/-- Reordering keeps what is defined. -/
theorem defines (h : model.Reorders model') {name : String} (hname : model.Defines name) :
    model'.Defines name :=
  hname.imp (h.messages.map _).mem_iff.1 (h.enums.map _).mem_iff.1

theorem allNames (h : model.Reorders model') : model.allNames.Perm model'.allNames :=
  (h.enums.map _).append (h.messages.map _)

/-- Reordering keeps which messages store which. -/
theorem storesInline (h : model.Reorders model') {a b : Message} (hab : model.StoresInline a b) :
    model'.StoresInline a b :=
  ⟨h.messages.mem_iff.1 hab.1, h.messages.mem_iff.1 hab.2.1, hab.2.2⟩

/-- Reordering keeps which kinds take no bytes. -/
theorem weightless (h : model.Reorders model') {kind : Kind} (hkind : model.Weightless kind) :
    model'.Weightless kind := by
  induction hkind with
  | empty element => exact .empty element
  | fixed n _ ih => exact .fixed n ih
  | message hm _ ih => exact .message (h.messages.mem_iff.1 hm) ih

/-- Reordering keeps a model well-formed. -/
theorem wellFormed (h : model.Reorders model') (hw : model.WellFormed) : model'.WellFormed := by
  have hmem {m : Message} (hm : m ∈ model'.messages) : m ∈ model.messages :=
    h.messages.mem_iff.2 hm
  exact {
    ids_fit := fun m hm => hw.ids_fit m (hmem hm)
    ids_distinct := (h.messages.map _).nodup_iff.1 hw.ids_distinct
    parts_supported := fun m hm => hw.parts_supported m (hmem hm)
    bases_known := fun m hm f hf => (hw.bases_known m (hmem hm) f hf).imp_right
      fun ⟨name, hbase, hname⟩ => ⟨name, hbase, h.defines hname⟩
    empty_marked := fun m hm => hw.empty_marked m (hmem hm)
    types_distinct := (h.allNames.map _).nodup_iff.1 hw.types_distinct
    types_free := fun name hname => hw.types_free name (h.allNames.mem_iff.2 hname)
    fields_distinct := fun m hm => hw.fields_distinct m (hmem hm)
    enums_wellFormed := fun e he => hw.enums_wellFormed e (h.enums.mem_iff.2 he)
    acyclic := fun m hm => hw.acyclic m (hm.lift id fun _ _ => h.symm.storesInline)
    elements_weigh := fun m hm f hf element helement hweightless =>
      hw.elements_weigh m (hmem hm) f hf element helement (h.symm.weightless hweightless) }

/-- The checks accept both orders or none. -/
theorem problems_eq_nil_iff (h : model.Reorders model') :
    model.problems = [] ↔ model'.problems = [] := by
  rw [Model.problems_eq_nil_iff, Model.problems_eq_nil_iff]
  exact ⟨h.wellFormed, h.symm.wellFormed⟩

end Model.Reorders

/-! ## Look-up -/

namespace Schema

variable {s t : Schema}

/-- Names are distinct, so each stands for the same in every order. -/
theorem resolve?_of_reorders (h : s.model.Reorders t.model) (name : String) :
    s.resolve? name = t.resolve? name := by
  have hmessage : s.model.message? name = t.model.message? name :=
    lookUp?_of_perm h.messages s.nodup_names name
  have henum : s.model.enumeration? name = t.model.enumeration? name :=
    lookUp?_of_perm h.enums s.nodup_enumNames name
  rw [resolve?, resolve?, Model.resolve?, Model.resolve?, hmessage, henum]

/-- Reordered schemas have the same wire format. -/
theorem sameWire_of_reorders (h : s.model.Reorders t.model) : s.SameWire t where
  length_eq := h.messages.length_eq
  message?_eq := lookUp?_of_perm h.messages s.nodup_names
  messageById?_eq := lookUp?_of_perm h.messages s.nodup_ids
  resolve?_alike name := by
    rw [resolve?_of_reorders h]
    exact .refl _

end Schema

/-- Sorting by identifier forgets the order of definition, since no two messages have one
    identifier. -/
theorem Codegen.registryTable_of_reorders {s t : Schema} (h : s.model.Reorders t.model) :
    registryTable s = registryTable t := by
  refine List.Perm.eq_of_pairwise (fun a b _ _ hab hba => ?_) (registryTable_ascending s)
    (registryTable_ascending t) ?_
  · exact absurd (UInt32.lt_trans hab hba) (UInt32.lt_irrefl _)
  · exact (registryTable_perm s).trans (h.messages.trans (registryTable_perm t).symm)

/-! ## The wire format -/

/-- A model in another order is a schema if and only if it is one in this order. Both schemas then
    encode every value to the same bytes or with the same error, decode all bytes alike, by name and
    by identifier, and have the same least sizes and the same table of identifiers. -/
theorem encode_of_reorders {model model' : Model} (h : model.Reorders model') :
    ((∃ s, model.validate = .ok s) ↔ ∃ t, model'.validate = .ok t) ∧
    ∀ s t, model.validate = .ok s → model'.validate = .ok t →
      (∀ v : Value, v.encode s = v.encode t) ∧
      (∀ name data, Value.decode s name data = Value.decode t name data) ∧
      (∀ id data, Value.decodeFrame s id data = Value.decodeFrame t id data) ∧
      (∀ kind, s.minSize kind = t.minSize kind) ∧
      Codegen.registryTable s = Codegen.registryTable t := by
  refine ⟨?_, fun s t hs ht => ?_⟩
  · simp only [Model.validate_eq_ok_iff]
    refine ⟨?_, ?_⟩
    · rintro ⟨s, rfl⟩
      exact ⟨⟨model', h.problems_eq_nil_iff.1 s.valid⟩, rfl⟩
    · rintro ⟨t, rfl⟩
      exact ⟨⟨model, h.problems_eq_nil_iff.2 t.valid⟩, rfl⟩
  · rw [← Model.validate_eq_ok_iff.1 hs, ← Model.validate_eq_ok_iff.1 ht] at h
    have hsame := Schema.sameWire_of_reorders h
    exact ⟨hsame.encode_eq, hsame.decode_eq, hsame.decodeFrame_eq, hsame.minSize_eq,
      Codegen.registryTable_of_reorders h⟩

/-- The model of the game with all its definitions in reverse. -/
def Game.reversedModel : Model :=
  { Game.model with enums := Game.model.enums.reverse, messages := Game.model.messages.reverse }

/-- The game with its definitions in reverse has the same bytes and the same table. -/
theorem encode_of_reorders_reversedModel :
    ∃ t, Game.reversedModel.validate = .ok t ∧
      (∀ v : Value, v.encode Game.schema = v.encode t) ∧
      Codegen.registryTable Game.schema = Codegen.registryTable t := by
  have hreorders : Game.model.Reorders Game.reversedModel :=
    ⟨(List.reverse_perm _).symm, (List.reverse_perm _).symm⟩
  have hschema : Game.model.validate = .ok Game.schema := Model.validate_eq_ok_iff.2 rfl
  obtain ⟨hverdict, hwire⟩ := encode_of_reorders hreorders
  obtain ⟨t, ht⟩ := hverdict.1 ⟨_, hschema⟩
  obtain ⟨hencode, -, -, -, htable⟩ := hwire _ t hschema ht
  exact ⟨t, ht, hencode, htable⟩

end WireSchema
