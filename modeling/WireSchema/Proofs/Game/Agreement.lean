import WireSchema.Proofs.Game.Write
import WireSchema.Proofs.Value.Safety
import WireSchema.Proofs.Wire.Registry

/-!
# The game registry and the game schema agree

Messages of the game can be handled in two ways: by the readers and writers of their types, which
the registry finds by identifier, or as dynamic values of the schema. Both ways take the same data,
give the same contents and stop at the same place, because each entry of the registry is a reader of
the message that the schema has under the same identifier (`readsMessage_entries`).
-/

namespace WireSchema.Game

open Typed

/-! ## Entries and messages -/

/-- The rows of the registry stand by ascending identifier. -/
theorem registry_sorted : Registry.Sorted registry.entries := by
  simp [Registry.Sorted, registry]

/-- An entry and a message have the same identifier, and the entry reads the message. -/
structure ReadsMessage (e : Registry.Entry AnyMessage) (m : Message) : Prop where
  id_eq : e.id = m.id
  mem : m ∈ schema.messages
  reads : ∀ n, ReadsLayout schema (.named m.name) n (AnyMessage.toValue <$> e.decode)

/-- A reader of a type is one of the messages that hold the type. -/
theorem reads_map {α : Type} [Typed α] {n : Nat} {r : Reader DecodeError α} (h : Reads schema n r)
    {wrap : α → AnyMessage} (hwrap : ∀ a, (wrap a).toValue = toValue a) :
    ReadsLayout schema (kind α) n (AnyMessage.toValue <$> wrap <$> r) := by
  rw [← comp_map, show AnyMessage.toValue ∘ wrap = toValue from funext hwrap]
  exact h

/-- The registry and the schema list the same messages. -/
theorem readsMessage_entries :
    List.Forall₂ ReadsMessage registry.entries.toList schema.messages := by
  refine .cons ⟨by decide, by simp [messages_schema], fun n => ?_⟩ <|
    .cons ⟨by decide, by simp [messages_schema], fun n => ?_⟩ <|
    .cons ⟨by decide, by simp [messages_schema], fun n => ?_⟩ <|
    .cons ⟨by decide, by simp [messages_schema], fun n => ?_⟩ <|
    .cons ⟨by decide, by simp [messages_schema], fun n => ?_⟩ <|
    .cons ⟨by decide, by simp [messages_schema], fun n => ?_⟩ <|
    .cons ⟨by decide, by simp [messages_schema], fun n => ?_⟩ <|
    .cons ⟨by decide, by simp [messages_schema], fun n => ?_⟩ .nil
  · exact reads_map Heartbeat.read_reads fun _ => rfl
  · exact reads_map Ping.read_reads fun _ => rfl
  · exact reads_map PlayerState.read_reads fun _ => rfl
  · exact reads_map Item.read_reads fun _ => rfl
  · exact reads_map Snapshot.read_reads fun _ => rfl
  · exact reads_map ChatLine.read_reads fun _ => rfl
  · exact reads_map (TreeNode.read_reads n) fun _ => rfl
  · exact reads_map Loadout.read_reads fun _ => rfl

/-- Lists of entries and messages that belong together are searched with the same outcome. -/
theorem find?_rel {entries : List (Registry.Entry AnyMessage)} {messages : List Message}
    (h : List.Forall₂ ReadsMessage entries messages) (id : UInt32) :
    Option.Rel ReadsMessage (entries.find? (·.id == id)) (messages.find? (·.id == id)) := by
  induction h with
  | nil => exact .none
  | @cons e m _ _ hem _ ih =>
    rw [List.find?_cons, List.find?_cons, hem.id_eq]
    cases m.id == id with
    | true => exact .some hem
    | false => exact ih

/-- The registry and the schema know the same identifiers. -/
theorem lookup_rel (id : UInt32) :
    Option.Rel ReadsMessage (registry.get? id) (schema.messageById? id) := by
  have hfind : schema.messageById? id = schema.messages.find? fun m => m.id == id :=
    lookUp?_eq_find? schema.nodup_ids id
  rw [Registry.get?_eq_find? registry_sorted, hfind]
  exact find?_rel readsMessage_entries id

/-- The registry and the schema know the same identifiers. -/
theorem get?_eq_none_iff {id : UInt32} :
    registry.get? id = none ↔ schema.messageById? id = none := by
  have hrel := lookup_rel id
  generalize registry.get? id = found, schema.messageById? id = found' at hrel
  cases hrel with
  | none => exact iff_of_true rfl rfl
  | some h => exact iff_of_false (Option.some_ne_none _) (Option.some_ne_none _)

namespace AnyMessage

/-- The two ways to read a message from a place give the same. -/
theorem readMessage_eq_ok_iff {id : UInt32} {m : Message} (hm : schema.messageById? id = some m)
    {c c' : Cursor} {v : Value} (hc : c.index ≤ c.data.size) :
    Value.readMessage schema m c = .ok v c' ↔
      ∃ a, AnyMessage.read id c = .ok a c' ∧ a.toValue = v := by
  have hrel := lookup_rel id
  rw [hm] at hrel
  cases hget : registry.get? id with
  | none =>
    rw [hget] at hrel
    cases hrel
  | some e =>
    rw [hget] at hrel
    -- Both readers take the forms of one kind and give their values.
    obtain ⟨hreads⟩ := hrel
    rw [ReadsLayout.eq_ok_iff (Value.readMessage_reads hreads.mem) hreads.reads hc,
      Run.map_eq_ok_iff, AnyMessage.read, Registry.decode, hget]
    simp only [Reader.mapError_eq_ok_iff]

/-- The two ways to read a frame give the same. -/
theorem decodeFrame_eq_ok_iff {id : UInt32} {b : ByteArray} {v : Value} :
    Value.decodeFrame schema id b = .ok v ↔ ∃ a, ofBytes id b = .ok a ∧ a.toValue = v := by
  cases hm : schema.messageById? id with
  | none =>
    rw [Value.decodeFrame_eq_unknownId_iff.2 hm, ofBytes,
      Registry.decodeFrame_eq_unknownId_iff.2 (get?_eq_none_iff.2 hm)]
    simp
  | some m =>
    rw [Value.decodeFrame, hm]
    change (Value.readMessage schema m).result (.start b) = .ok v ↔
      ∃ a, (AnyMessage.read id).result (.start b) = .ok a ∧ a.toValue = v
    have hstart : (Cursor.start b).index ≤ (Cursor.start b).data.size := Nat.zero_le _
    simp only [Reader.result_eq_ok_iff, readMessage_eq_ok_iff hm hstart]
    refine ⟨?_, ?_⟩
    · rintro ⟨c, a, ha, hv⟩
      exact ⟨a, ⟨c, ha⟩, hv⟩
    · rintro ⟨a, ⟨c, ha⟩, hv⟩
      exact ⟨c, a, ha, hv⟩

/-- Reading by the registry and reading by the schema agree, on what can be read, on the contents
    and on where reading stops, and so do writing by the types and writing by the schema. -/
theorem agrees_with_schema :
    (∀ (id : UInt32) (b : ByteArray),
      ((∃ a, ofBytes id b = .ok a) ↔ ∃ v, Value.decodeFrame schema id b = .ok v) ∧
      (ofBytes id b = .error (.error (.unknownId id)) ↔ schema.messageById? id = none) ∧
      (Value.decodeFrame schema id b = .error (.error (.unknownId id)) ↔
        schema.messageById? id = none) ∧
      (∀ a, ofBytes id b = .ok a → Value.decodeFrame schema id b = .ok a.toValue) ∧
      (∀ m, schema.messageById? id = some m → ∀ v c,
        Value.readMessage schema m (.start b) = .ok v c ↔
          ∃ a, AnyMessage.read id (.start b) = .ok a c ∧ a.toValue = v)) ∧
    (∀ a : AnyMessage, a.holdsSingleNaN = false →
      a.toValue.encode schema = a.toBytes.mapError .encode) := by
  refine ⟨fun id b => ⟨?_, ?_, Value.decodeFrame_eq_unknownId_iff, fun a ha => ?_,
    fun m hm v c => ?_⟩, fun a => encode_toValue⟩
  · refine ⟨fun ⟨a, ha⟩ => ⟨a.toValue, decodeFrame_eq_ok_iff.2 ⟨a, ha, rfl⟩⟩, fun ⟨v, hv⟩ => ?_⟩
    obtain ⟨a, ha, -⟩ := decodeFrame_eq_ok_iff.1 hv
    exact ⟨a, ha⟩
  · exact Registry.decodeFrame_eq_unknownId_iff.trans get?_eq_none_iff
  · exact decodeFrame_eq_ok_iff.2 ⟨a, ha, rfl⟩
  · exact readMessage_eq_ok_iff hm (Nat.zero_le _)

/-- The data of a player is read in both ways, up to its 28th byte, and written back in both. -/
theorem agrees_with_schema_playerData :
    ∃ a c, AnyMessage.read 3 (.start Value.playerData) = .ok a c ∧ c.index = 28 ∧
      a.holdsSingleNaN = false ∧
      Value.readMessage schema Decl.playerState (.start Value.playerData) = .ok a.toValue c ∧
      Value.decodeFrame schema 3 Value.playerData = .ok a.toValue ∧
      a.toValue.encode schema = a.toBytes.mapError .encode := by
  have hread : (AnyMessage.read 3).succeeds (.start Value.playerData)
      (fun a c => c.index == 28 && !a.holdsSingleNaN) = true := by decide +kernel
  obtain ⟨a, c, h, htest⟩ := Reader.exists_of_succeeds hread
  obtain ⟨hindex, hnan⟩ := Bool.and_eq_true_iff.1 htest
  rw [Bool.not_eq_true'] at hnan
  obtain ⟨-, -, -, hframe, hcursor⟩ := agrees_with_schema.1 3 Value.playerData
  refine ⟨a, c, h, eq_of_beq hindex, hnan, ?_, ?_, agrees_with_schema.2 a hnan⟩
  · exact (hcursor Decl.playerState (by decide +kernel) a.toValue c).2 ⟨a, h, rfl⟩
  · exact hframe a (Reader.result_eq_ok_iff.2 ⟨c, h⟩)

end AnyMessage

end WireSchema.Game
