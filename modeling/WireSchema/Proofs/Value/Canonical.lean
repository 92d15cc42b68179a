import WireSchema.Proofs.Game.Schema
import WireSchema.Proofs.Number.Convert
import WireSchema.Proofs.Value.Layout
import WireSchema.Proofs.Value.Normal

/-!
# One wire form for each value

A value that was read is written as the bytes it was read from, so that no value has two wire forms.
What was read is in its form; this module shows that a value is written in its form
(`Layout.writes`).

The one exception are NaNs of 32 bits: they are made quiet when they are widened, and are written
quiet then.
-/

namespace WireSchema

open Writer WireSchema.Number

/-- A number of 32 bits in the value is a NaN. -/
inductive Value.SingleNaN (s : Schema) : Kind → Value → Prop
  | single {x : Double} (h : x.isNaN = true) : SingleNaN s (.primitive .single) (.float x)
  | item {element : Kind} {len : ArrayLen} {items : List Value} {v : Value} (hv : v ∈ items)
      (h : SingleNaN s element v) : SingleNaN s (.array element len) (.array items)
  | field {name type : String} {m : Message} {fields : List (String × Value)} {f : Field}
      {v : Value} (hm : s.resolve? name = some (.message m)) (hf : f ∈ m.fields)
      (hv : fields.lookup f.name = some v) (h : SingleNaN s f.kind v) :
      SingleNaN s (.named name) (.message type fields)

variable {s : Schema}

/-- A NaN of single precision is a NaN. -/
theorem Value.SingleNaN.holdsNaN {kind : Kind} {v : Value} (h : v.SingleNaN s kind) :
    v.holdsNaN = true := by
  rw [← Bool.not_eq_false]
  intro hfalse
  induction h with
  | single hx => exact absurd hx (Bool.eq_false_iff.1 hfalse)
  | item hv _ ih => exact ih (holdsNaN_eq_false_of_part (.item hv) hfalse)
  | field _ _ hv _ ih =>
    exact ih (holdsNaN_eq_false_of_part (.field (mem_of_lookup_eq_some hv)) hfalse)

/-! ## Forms are written -/

/-- A number that was widened passes the test of the writer and is written as it was. -/
theorem writeNarrow_widen {x : Single} (h : x.widen.isNaN = false) :
    (Value.writeNarrow x.widen).Writes (leBytes 4 x.bits.toNat).toByteArray := by
  have hx : x.isNaN = false := by
    cases hnan : x.isNaN with
    | false => rfl
    | true => exact absurd (Single.isNaN_widen hnan) (Bool.eq_false_iff.1 h)
  rw [Value.writeNarrow, Single.narrow_widen hx, Double.same_self h, Bool.true_or, if_pos rfl]
  exact writeBytes_writes _

/-- A primitive value is written in the form it was read from, unless it is a NaN of single
    precision. -/
theorem Primitive.Form.writes {p : Primitive} {v : Value} {e : ByteArray}
    (hnan : ¬v.SingleNaN s (.primitive p)) (h : p.Form v e) : (v.writePrimitive p).Writes e := by
  cases h with
  | uint w h =>
    change ((writeUInt w (UInt64.ofNat _).toNat).mapError ValueError.encode).Writes _
    rw [writes_mapError_iff, toNat_ofNat_of_le_unsignedMax h]
    exact writeUInt_writes_iff.2 ⟨h, rfl⟩
  | int w h =>
    change ((writeInt w (Int64.ofInt _).toInt).mapError ValueError.encode).Writes _
    rw [writes_mapError_iff, toInt_ofInt_of_signed_bounds h]
    exact writeInt_writes_iff.2 ⟨h, rfl⟩
  | single x => exact writeNarrow_widen (Bool.eq_false_iff.2 fun hx => hnan (.single hx))
  | double x => exact writeBytes_writes _
  | bool b => cases b <;> exact writeBytes_writes _
  | string h =>
    rw [Value.writePrimitive, writes_mapError_iff]
    exact writeString_writes_iff.2 ⟨h, rfl⟩

mutual

/-- A value is written in its form. -/
theorem Layout.writes {kind : Kind} {v : Value} {e : ByteArray} (hnan : ¬v.SingleNaN s kind) :
    Layout s kind v e → (v.write s kind).Writes e
  | .primitive h => by
    rw [Value.write]
    exact h.writes hnan
  | .counted hlen h => by
    rw [Value.write]
    refine Writes.bind ((writes_mapError_iff _).2 (writeLen_writes_iff.2 ⟨hlen, rfl⟩)) ?_
    exact h.writes fun v hv hvnan => hnan (.item hv hvnan)
  | .fixed h => by
    rw [Value.write, Value.writeArrayLen, if_pos rfl, ← ByteArray.empty_append (b := e)]
    refine Writes.bind ((writes_mapError_iff _).2 writes_pure) ?_
    exact h.writes fun v hv hvnan => hnan (.item hv hvnan)
  | .enumeration ht h => by
    rw [Value.write, ht]
    change (Value.writeEnum _ _).Writes _
    rw [Value.writeEnum, if_pos (beq_self_eq_true _), writes_mapError_iff,
      toNat_ofNat_of_le_unsignedMax h]
    exact writeUInt_writes_iff.2 ⟨h, rfl⟩
  | .message (m := m) hm h => by
    -- The writer looks each field up by name, which finds the value that stands at its place.
    have hnodup := Schema.nodup_fields (Schema.mem_of_resolve? hm).1
    rw [← h.keys_eq] at hnodup
    rw [Value.write, hm]
    change Writes (if m.name == m.name then _ else _) _
    rw [if_pos (beq_self_eq_true _)]
    exact h.writes (fun p hp => lookup_of_mem hnodup hp) fun f hf v hv hvnan =>
      hnan (.field hm hf hv hvnan)

/-- Items are written in the form they were read from. -/
theorem ItemsLayout.writes {kind : Kind} {items : List Value} {e : ByteArray}
    (hnan : ∀ v ∈ items, ¬v.SingleNaN s kind) :
    ItemsLayout s kind items e → (Value.writeItems s items kind).Writes e
  | .nil => writes_pure
  | .cons h h' => by
    obtain ⟨hv, hitems⟩ := List.forall_mem_cons.1 hnan
    exact (h.writes hv).bind (h'.writes hitems)

/-- Fields are written in their form, where they are found among all values. -/
theorem FieldsLayout.writes {m : Message} {all : List (String × Value)} {fields : List Field}
    {values : List (String × Value)} {e : ByteArray}
    (hall : ∀ p ∈ values, all.lookup p.1 = some p.2)
    (hnan : ∀ f ∈ fields, ∀ v, all.lookup f.name = some v → ¬v.SingleNaN s f.kind) :
    FieldsLayout s fields values e →
      (Value.writeFields m (Value.fieldWriters s all) fields).Writes e
  | .nil => writes_pure
  | .cons h h' => by
    obtain ⟨hlookup, hrest⟩ := List.forall_mem_cons.1 hall
    obtain ⟨hv, hfields⟩ := List.forall_mem_cons.1 hnan
    rw [Value.writeFields, Value.lookup_fieldWriters, hlookup]
    exact (h.writes (hv _ hlookup)).bind (h'.writes hrest hfields)

end

namespace Value

/-- What was read is encoded as the bytes that were taken. -/
theorem encode_of_readMessage {m : Message} (hm : m ∈ s.messages) {c c' : Cursor} {v : Value}
    (hc : c.index ≤ c.data.size) (h : readMessage s m c = .ok v c')
    (hnan : ¬v.SingleNaN s (.named m.name)) :
    v.encode s = .ok (c.data.extract c.index c'.index) := by
  obtain ⟨e, hspan, hlayout⟩ := readMessage_consumes hm hc h
  obtain ⟨values, rfl, -⟩ := (layout_message_iff hm).1 hlayout
  rw [encode, Schema.message?_of_mem hm]
  exact (write_appends s _ _).toBytes_eq_ok_iff.2 (hspan.extract_eq ▸ hlayout.writes hnan)

/-- What is read from data is encoded as the bytes that were taken, so that data that is read as one
    value is the same as far as it was taken. -/
theorem encode_readMessage {m : Message} (hm : m ∈ s.messages) :
    (∀ (b : ByteArray) (v : Value) (c : Cursor), readMessage s m (.start b) = .ok v c →
      ¬v.SingleNaN s (.named m.name) → v.encode s = .ok (b.extract 0 c.index)) ∧
    (∀ (b b' : ByteArray) (v : Value) (c c' : Cursor), readMessage s m (.start b) = .ok v c →
      readMessage s m (.start b') = .ok v c' → ¬v.SingleNaN s (.named m.name) →
      b.extract 0 c.index = b'.extract 0 c'.index) := by
  have hstart : ∀ b v c, readMessage s m (.start b) = .ok v c → ¬v.SingleNaN s (.named m.name) →
      v.encode s = .ok (b.extract 0 c.index) := by
    intro b v c h hnan
    have hencode := encode_of_readMessage hm (Nat.zero_le _) h hnan
    exact hencode
  refine ⟨hstart, fun b b' v c c' h h' hnan => ?_⟩
  exact Except.ok.inj ((hstart b v c h hnan).symm.trans (hstart b' v c' h' hnan))

/-- A player at `(1, -0, ∞)` with three bytes behind. -/
def playerData : ByteArray :=
  ⟨#[1, 0, 0, 0, 65, 0, 0, 128, 63, 0, 0, 0, 128, 0, 0, 128, 127, 0, 0, 0, 0, 9, 2, 1,
    254, 255, 255, 255, 7, 7, 7]⟩

/-- A chat line with some bytes behind. -/
def lineData (behind : Array UInt8) : ByteArray :=
  ⟨#[2, 0, 0, 0, 104, 105] ++ behind⟩

/-- A player is read from the front of its data and written back as those bytes. -/
theorem encode_readMessage_playerData :
    (∃ v c, readMessage Game.schema Game.Decl.playerState (.start playerData) = .ok v c ∧
      c.index = 28 ∧ v.encode Game.schema = .ok (playerData.extract 0 c.index)) ∧
    (lineData #[]).extract 0 6 = (lineData #[1, 2]).extract 0 6 := by
  have hplayer : Game.Decl.playerState ∈ Game.schema.messages := by
    simp [Schema.messages, Game.schema, Game.model]
  have hline : Game.Decl.chatLine ∈ Game.schema.messages := by
    simp [Schema.messages, Game.schema, Game.model]
  refine ⟨?_, ?_⟩
  · have hread : (readMessage Game.schema Game.Decl.playerState).succeeds (.start playerData)
        (fun v c => c.index == 28 && !v.holdsNaN) = true := by decide +kernel
    obtain ⟨v, c, h, htest⟩ := Reader.exists_of_succeeds hread
    obtain ⟨hindex, hnan⟩ := Bool.and_eq_true_iff.1 htest
    refine ⟨v, c, h, eq_of_beq hindex, ?_⟩
    refine (encode_readMessage hplayer).1 playerData v c h fun hv => ?_
    rw [hv.holdsNaN] at hnan
    cases hnan
  · have hread : readMessage Game.schema Game.Decl.chatLine (.start (lineData #[])) =
        .ok (.message "ChatLine" [("text", .string "hi")]) ⟨lineData #[], 6⟩ := rfl
    have hread' : readMessage Game.schema Game.Decl.chatLine (.start (lineData #[1, 2])) =
        .ok (.message "ChatLine" [("text", .string "hi")]) ⟨lineData #[1, 2], 6⟩ := rfl
    have hnan : ¬(message "ChatLine" [("text", .string "hi")]).SingleNaN Game.schema
        (.named Game.Decl.chatLine.name) := fun hv => nomatch hv.holdsNaN
    have hsame := (encode_readMessage hline).2 _ _ _ _ _ hread hread' hnan
    exact hsame

end Value

end WireSchema
