import WireSchema.Proofs.Schema.Resolve
import WireSchema.Proofs.Value.Integers
import WireSchema.Proofs.Wire.Conditions

/-!
# Values that conform to a kind

A value is written as one of a kind exactly if it conforms to the kind (`Conforms`), which is said
here without writers. What is written then is given by the same cases (`Encodes`): integers and
floating-point numbers as their little-endian bytes, a count in front of texts and counted arrays,
and the parts of arrays and messages one behind the other, fields in the order of their declaration.

* a value is written as `Encodes` says, and as nothing else (`encodes_of_writes`, `Encodes.writes`);
* the values with an encoding are those that conform (`conforms_iff_exists_encodes`);
* names that stand for nothing are never met in the fields of a schema (`write_namesKnown`).
-/

namespace WireSchema

open Writer WireSchema.Number

/-! ## Conformance and encodings -/

/-- The value conforms to the kind. -/
inductive Conforms (s : Schema) : Kind → Value → Prop
  /-- An integer of either tag is in the range of the type. -/
  | integer {t : IntType} {v : Value} {z : Int} (hv : v.integer? = some z)
      (hz : t.min ≤ z ∧ z ≤ t.max) : Conforms s (.primitive (.int t)) v
  /-- A number is exact with 32 bits, or it is no number. -/
  | single {x : Double} (hx : x.isNaN = true ∨ x.FitsSingle) :
      Conforms s (.primitive .single) (.float x)
  | double (x : Double) : Conforms s (.primitive .double) (.float x)
  | bool (b : Bool) : Conforms s (.primitive .bool) (.bool b)
  /-- The bytes of a text can be counted. -/
  | string {t : String} (ht : t.utf8ByteSize ≤ Width.w32.unsignedMax) :
      Conforms s (.primitive .string) (.string t)
  /-- The items of an array can be counted. -/
  | counted {element : Kind} {items : List Value} (hlen : items.length ≤ Width.w32.unsignedMax)
      (hitems : ∀ v ∈ items, Conforms s element v) :
      Conforms s (.array element .counted) (.array items)
  /-- An array has the number of items that its kind fixes. -/
  | fixed {element : Kind} {n : Nat} {items : List Value} (hlen : items.length = n)
      (hitems : ∀ v ∈ items, Conforms s element v) :
      Conforms s (.array element (.fixed n)) (.array items)
  /-- An enum has its name and an integer of its width, which need not belong to a member. -/
  | enumeration {name : String} {t : Enumeration} {raw : UInt64}
      (ht : s.resolve? name = some (.enumeration t)) (hraw : raw.toNat ≤ t.wireWidth.unsignedMax) :
      Conforms s (.named name) (.enumeration t.name raw)
  /-- A message has its name and all declared fields; others are passed over. -/
  | message {name : String} {m : Message} {values : List (String × Value)}
      (hm : s.resolve? name = some (.message m))
      (hall : ∀ f ∈ m.fields, (values.lookup f.name).isSome)
      (hvalues : ∀ f ∈ m.fields, ∀ v, values.lookup f.name = some v → Conforms s f.kind v) :
      Conforms s (.named name) (.message m.name values)

/-- The bytes of a value of a kind. -/
inductive Encodes (s : Schema) : Kind → Value → ByteArray → Prop
  | integer {t : IntType} {v : Value} {z : Int} (hv : v.integer? = some z)
      (hz : t.min ≤ z ∧ z ≤ t.max) :
      Encodes s (.primitive (.int t)) v (leBytesInt t.width.bytes z).toByteArray
  | single {x : Double} (hx : x.isNaN = true ∨ x.FitsSingle) :
      Encodes s (.primitive .single) (.float x) (leBytes 4 x.narrow.bits.toNat).toByteArray
  | double (x : Double) :
      Encodes s (.primitive .double) (.float x) (leBytes 8 x.bits.toNat).toByteArray
  | bool (b : Bool) : Encodes s (.primitive .bool) (.bool b) (leBytes 1 b.toNat).toByteArray
  | string {t : String} (ht : t.utf8ByteSize ≤ Width.w32.unsignedMax) :
      Encodes s (.primitive .string) (.string t)
        ((leBytes 4 t.utf8ByteSize).toByteArray ++ t.toUTF8)
  | counted {element : Kind} {items : List Value} {part : Value → ByteArray}
      (hlen : items.length ≤ Width.w32.unsignedMax)
      (hitems : ∀ v ∈ items, Encodes s element v (part v)) :
      Encodes s (.array element .counted) (.array items)
        ((leBytes 4 items.length).toByteArray ++ joinBytes (items.map part))
  | fixed {element : Kind} {n : Nat} {items : List Value} {part : Value → ByteArray}
      (hlen : items.length = n) (hitems : ∀ v ∈ items, Encodes s element v (part v)) :
      Encodes s (.array element (.fixed n)) (.array items) (joinBytes (items.map part))
  | enumeration {name : String} {t : Enumeration} {raw : UInt64}
      (ht : s.resolve? name = some (.enumeration t)) (hraw : raw.toNat ≤ t.wireWidth.unsignedMax) :
      Encodes s (.named name) (.enumeration t.name raw)
        (leBytes t.wireWidth.bytes raw.toNat).toByteArray
  | message {name : String} {m : Message} {values : List (String × Value)}
      {part : Field → ByteArray} (hm : s.resolve? name = some (.message m))
      (hall : ∀ f ∈ m.fields, (values.lookup f.name).isSome)
      (hvalues : ∀ f ∈ m.fields, ∀ v, values.lookup f.name = some v → Encodes s f.kind v (part f)) :
      Encodes s (.named name) (.message m.name values) (joinBytes (m.fields.map part))

variable {s : Schema} {kind : Kind} {v : Value} {e : ByteArray}

/-- What has an encoding conforms. -/
theorem Encodes.conforms (h : Encodes s kind v e) : Conforms s kind v := by
  induction h with
  | integer hv hz => exact .integer hv hz
  | single hx => exact .single hx
  | double x => exact .double x
  | bool b => exact .bool b
  | string ht => exact .string ht
  | counted hlen _ ih => exact .counted hlen ih
  | fixed hlen _ ih => exact .fixed hlen ih
  | enumeration ht hraw => exact .enumeration ht hraw
  | message hm hall _ ih => exact .message hm hall ih

/-- What conforms has an encoding, by induction on its structure. -/
theorem Conforms.exists_encodes (h : Conforms s kind v) : ∃ e, Encodes s kind v e := by
  induction h with
  | integer hv hz => exact ⟨_, .integer hv hz⟩
  | single hx => exact ⟨_, .single hx⟩
  | double x => exact ⟨_, .double x⟩
  | bool b => exact ⟨_, .bool b⟩
  | string ht => exact ⟨_, .string ht⟩
  | counted hlen _ ih =>
    choose! part hpart using ih
    exact ⟨_, .counted hlen hpart⟩
  | fixed hlen _ ih =>
    choose! part hpart using ih
    exact ⟨_, .fixed hlen hpart⟩
  | enumeration ht hraw => exact ⟨_, .enumeration ht hraw⟩
  | @message name m values hm hall _ ih =>
    -- The value of a field is the one that its name finds.
    have hpart : ∀ f ∈ m.fields, ∃ e, ∀ v,
        values.lookup f.name = some v → Encodes s f.kind v e := by
      intro f hf
      obtain ⟨v, hv⟩ := Option.isSome_iff_exists.1 (hall f hf)
      obtain ⟨e, he⟩ := ih f hf v hv
      refine ⟨e, fun w hw => ?_⟩
      cases hv.symm.trans hw
      exact he
    choose! part hpart using hpart
    exact ⟨_, .message hm hall hpart⟩

/-- To conform is to have an encoding. -/
theorem conforms_iff_exists_encodes : Conforms s kind v ↔ ∃ e, Encodes s kind v e :=
  ⟨Conforms.exists_encodes, fun ⟨_, h⟩ => h.conforms⟩

/-! ## What is written -/

namespace Value

/-- Appends a declared field of a message. -/
def writeField (s : Schema) (m : Message) (values : List (String × Value)) (f : Field) :
    Writer ValueError Unit :=
  match values.lookup f.name with
  | none => throw (.missingField m.name f.name)
  | some v => v.write s f.kind

/-- A field is written if it is there and its value is written. -/
theorem writeField_writes_iff {m : Message} {values : List (String × Value)} {f : Field} :
    (writeField s m values f).Writes e ↔ (values.lookup f.name).isSome ∧
      ∀ v, values.lookup f.name = some v → (v.write s f.kind).Writes e := by
  rw [writeField]
  cases values.lookup f.name with
  | none => simp [not_writes_throw]
  | some v => simp

theorem writeField_appends (s : Schema) (m : Message) (values : List (String × Value)) (f : Field) :
    (writeField s m values f).Appends := by
  rw [writeField]
  split
  · exact appends_throw _
  · exact write_appends s _ _

/-- The items of an array are written one after the other. -/
theorem writeItems_eq (s : Schema) (items : List Value) (element : Kind) :
    writeItems s items element = writeAll (fun v => v.write s element) items := by
  induction items with
  | nil => rfl
  | cons v items ih => rw [writeItems, writeAll, ih]

/-- The declared fields of a message are written one after the other. -/
theorem writeFields_eq (s : Schema) (m : Message) (values : List (String × Value))
    (fields : List Field) :
    writeFields m (fieldWriters s values) fields = writeAll (writeField s m values) fields := by
  induction fields with
  | nil => rfl
  | cons f fields ih =>
    rw [writeFields, writeAll, lookup_fieldWriters, writeField, ih]
    cases values.lookup f.name <;> rfl

/-- Items are written one by one, and their bytes are joined. -/
theorem writeItems_writes_iff {items : List Value} {element : Kind} :
    (writeItems s items element).Writes e ↔ ∃ part : Value → ByteArray,
      (∀ v ∈ items, (v.write s element).Writes (part v)) ∧ e = joinBytes (items.map part) := by
  rw [writeItems_eq]
  exact writes_writeAll_iff fun v _ => v.write_appends s element

/-- Fields are written in the order of their declaration, and their bytes are joined. -/
theorem writeFields_writes_iff {m : Message} {values : List (String × Value)}
    {fields : List Field} :
    (writeFields m (fieldWriters s values) fields).Writes e ↔ ∃ part : Field → ByteArray,
      (∀ f ∈ fields, (values.lookup f.name).isSome ∧
        ∀ v, values.lookup f.name = some v → (v.write s f.kind).Writes (part f)) ∧
      e = joinBytes (fields.map part) := by
  rw [writeFields_eq, writes_writeAll_iff fun f _ => writeField_appends s m values f]
  simp only [writeField_writes_iff]

/-- A counted array writes its length in four bytes; a fixed one writes nothing and has the
    length. -/
theorem writeArrayLen_writes_iff {len : ArrayLen} {n : Nat} :
    (writeArrayLen len n).Writes e ↔
      (len = .counted ∧ n ≤ Width.w32.unsignedMax ∧ e = (leBytes 4 n).toByteArray) ∨
        len = .fixed n ∧ e = .empty := by
  cases len with
  | counted => simp [writeArrayLen, writeLen_writes_iff]
  | fixed expected =>
    rw [writeArrayLen]
    split
    · next h => simp [writes_pure_iff, h]
    · next h => simp [not_writes_throw, h]

/-- A number is narrowed if it is a NaN or fits single precision. -/
theorem writeNarrow_writes_iff {x : Double} :
    (writeNarrow x).Writes e ↔ (x.isNaN = true ∨ x.FitsSingle) ∧
      e = (leBytes 4 x.narrow.bits.toNat).toByteArray := by
  rw [writeNarrow, Double.fitsSingle_iff, ← Bool.or_eq_true, Bool.or_comm]
  split
  · next h => rw [writeSingle, writeU32, writeBytes_writes_iff, and_iff_right h]
  · next h => exact iff_of_false (not_writes_throw _) fun h' => h h'.1

end Value

/-- A value is written as its encoding. -/
theorem Encodes.writes (h : Encodes s kind v e) : (v.write s kind).Writes e := by
  induction h with
  | integer hv hz =>
    rw [Value.write_int]
    exact Value.writeInteger_writes_iff.2 ⟨_, hv, hz, rfl⟩
  | single hx => exact Value.writeNarrow_writes_iff.2 ⟨hx, rfl⟩
  | double x => exact writeBytes_writes _
  | bool b => cases b <;> exact writeBytes_writes _
  | string ht => exact (writes_mapError_iff _).2 (writeString_writes_iff.2 ⟨ht, rfl⟩)
  | counted hlen _ ih =>
    rw [Value.write]
    refine Writes.bind ((writes_mapError_iff _).2 ?_) (Value.writeItems_writes_iff.2 ⟨_, ih, rfl⟩)
    exact Value.writeArrayLen_writes_iff.2 (.inl ⟨rfl, hlen, rfl⟩)
  | fixed hlen _ ih =>
    rw [Value.write, ← ByteArray.empty_append (b := joinBytes _)]
    refine Writes.bind ((writes_mapError_iff _).2 ?_) (Value.writeItems_writes_iff.2 ⟨_, ih, rfl⟩)
    exact Value.writeArrayLen_writes_iff.2 (.inr ⟨by rw [hlen], rfl⟩)
  | enumeration ht hraw =>
    rw [Value.write, ht]
    change (Value.writeEnum _ _).Writes _
    rw [Value.writeEnum, if_pos (beq_self_eq_true _), writes_mapError_iff]
    exact writeUInt_writes_iff.2 ⟨hraw, rfl⟩
  | @message name m values part hm hall _ ih =>
    rw [Value.write, hm]
    change Writes (if m.name == m.name then _ else _) _
    rw [if_pos (beq_self_eq_true _)]
    exact Value.writeFields_writes_iff.2 ⟨part, fun f hf => ⟨hall f hf, ih f hf⟩, rfl⟩

/-! ### Nothing else is written -/

/-- The bytes of a primitive value are its encoding. -/
theorem encodes_of_writePrimitive {p : Primitive} (h : (v.writePrimitive p).Writes e) :
    Encodes s (.primitive p) v e := by
  unfold Value.writePrimitive at h
  split at h
  · obtain ⟨z, hv, hz, rfl⟩ := Value.writeInteger_writes_iff.1 h
    exact .integer hv hz
  · obtain ⟨hx, rfl⟩ := Value.writeNarrow_writes_iff.1 h
    exact .single hx
  · cases writeBytes_writes_iff.1 h
    exact .double _
  · next b =>
    cases writeBytes_writes_iff.1 h
    cases b <;> exact .bool _
  · obtain ⟨ht, rfl⟩ := writeString_writes_iff.1 ((writes_mapError_iff _).1 h)
    exact .string ht
  · exact absurd h (not_writes_throw _)

theorem encodes_of_writeEnum {name : String} {t : Enumeration}
    (ht : s.resolve? name = some (.enumeration t)) (h : (v.writeEnum t).Writes e) :
    Encodes s (.named name) v e := by
  unfold Value.writeEnum at h
  split at h
  · split at h
    · next htype =>
      cases eq_of_beq htype
      obtain ⟨hraw, rfl⟩ := writeUInt_writes_iff.1 ((writes_mapError_iff _).1 h)
      exact .enumeration ht hraw
    · exact absurd h (not_writes_throw _)
  · exact absurd h (not_writes_throw _)

/-- The bytes of an array are its encoding if those of its items are. -/
theorem encodes_of_writeItems {element : Kind} {len : ArrayLen} {items : List Value}
    (ih : ∀ v ∈ items, ∀ kind e, (v.write s kind).Writes e → Encodes s kind v e)
    (h : ((Value.array items).write s (.array element len)).Writes e) :
    Encodes s (.array element len) (.array items) e := by
  rw [Value.write] at h
  obtain ⟨e₁, e₂, h₁, h₂, rfl⟩ := (writes_bind_iff ((Value.writeArrayLen_appends _ _).mapError _)
    (Value.writeItems_appends fun w _ => w.write_appends s _)).1 h
  obtain ⟨part, hpart, rfl⟩ := Value.writeItems_writes_iff.1 h₂
  rw [writes_mapError_iff, Value.writeArrayLen_writes_iff] at h₁
  obtain ⟨rfl, hlen, rfl⟩ | ⟨rfl, rfl⟩ := h₁
  · exact .counted hlen fun v hv => ih v hv _ _ (hpart v hv)
  · rw [ByteArray.empty_append]
    exact .fixed rfl fun v hv => ih v hv _ _ (hpart v hv)

/-- The bytes of a message are its encoding if those of its fields are. -/
theorem encodes_of_writeFields {name : String} {m : Message} {values : List (String × Value)}
    (hm : s.resolve? name = some (.message m))
    (ih : ∀ p ∈ values, ∀ kind e, (p.2.write s kind).Writes e → Encodes s kind p.2 e)
    (h : (Value.writeFields m (Value.fieldWriters s values) m.fields).Writes e) :
    Encodes s (.named name) (.message m.name values) e := by
  obtain ⟨part, hpart, rfl⟩ := Value.writeFields_writes_iff.1 h
  refine .message hm (fun f hf => (hpart f hf).1) fun f hf v hv => ?_
  exact ih _ (mem_of_lookup_eq_some hv) _ _ ((hpart f hf).2 v hv)

/-- What is written is the encoding of the value. -/
theorem encodes_of_writes (h : (v.write s kind).Writes e) : Encodes s kind v e := by
  induction v using Value.induction generalizing kind e with
  | step v ih =>
    have h' := h
    unfold Value.write at h
    split at h
    · exact encodes_of_writePrimitive h
    · split at h
      · exact encodes_of_writeItems (fun w hw _ _ => ih w (.item hw)) h'
      · exact absurd h (not_writes_throw _)
    · split at h
      · next ht => exact encodes_of_writeEnum ht h
      · next hm =>
        split at h
        · split at h
          · next htype =>
            cases eq_of_beq htype
            exact encodes_of_writeFields hm (fun p hp _ _ => ih p.2 (.field hp)) h
          · exact absurd h (not_writes_throw _)
        · exact absurd h (not_writes_throw _)
      · exact absurd h (not_writes_throw _)
    · exact absurd h (not_writes_throw _)

/-- A field takes a value exactly if it has an encoding, which is what is appended. -/
theorem encodeField_eq_ok_iff {b b' : ByteArray} :
    v.encodeField s kind b = .ok () b' ↔ ∃ e, Encodes s kind v e ∧ b' = b ++ e := by
  rw [Value.encodeField, (v.write_appends s kind).allOrNothing.ok_iff]
  simp only [writes_allOrNothing_iff]
  refine exists_congr fun e => and_congr_left fun _ => ⟨encodes_of_writes, Encodes.writes⟩

/-! ## Names that stand for nothing -/

/-- The error is not about a name that stands for nothing. -/
def ValueError.NamesKnown : ValueError → Prop
  | unknownType _ => False
  | _ => True

theorem ValueError.NamesKnown.ne {err : ValueError} (h : err.NamesKnown) (name : String) :
    err ≠ .unknownType name := by
  rintro rfl
  exact h

theorem mismatch_namesKnown (v : Value) (expected : String) :
    (v.mismatch expected).FailsWith ValueError.NamesKnown :=
  failsWith_throw trivial

theorem writeInteger_namesKnown (t : IntType) (v : Value) :
    (v.writeInteger t).FailsWith ValueError.NamesKnown := by
  unfold Value.writeInteger
  split
  · exact failsWith_mapError (fun _ => trivial) _
  · split
    · exact failsWith_throw trivial
    · exact failsWith_mapError (fun _ => trivial) _
  · exact failsWith_mapError (fun _ => trivial) _
  · split
    · exact failsWith_throw trivial
    · exact failsWith_mapError (fun _ => trivial) _
  · exact mismatch_namesKnown _ _

/-- Writing a primitive value does not meet an unknown name. -/
theorem writePrimitive_namesKnown (p : Primitive) (v : Value) :
    (v.writePrimitive p).FailsWith ValueError.NamesKnown := by
  unfold Value.writePrimitive
  split
  · exact writeInteger_namesKnown _ _
  · rw [Value.writeNarrow]
    split
    · exact (writeBytes_writes _).failsWith
    · exact failsWith_throw trivial
  · exact (writeBytes_writes _).failsWith
  · exact (writeBytes_writes _).failsWith
  · exact failsWith_mapError (fun _ => trivial) _
  · exact mismatch_namesKnown _ _

theorem writeEnum_namesKnown (t : Enumeration) (v : Value) :
    (v.writeEnum t).FailsWith ValueError.NamesKnown := by
  unfold Value.writeEnum
  split
  · split
    · exact failsWith_mapError (fun _ => trivial) _
    · exact mismatch_namesKnown _ _
  · exact mismatch_namesKnown _ _

/-- A kind that is made of known types has only known types below it. -/
theorem write_namesKnown (hkind : s.Knows kind) (v : Value) :
    (v.write s kind).FailsWith ValueError.NamesKnown := by
  induction v using Value.induction generalizing kind with
  | step v ih =>
    unfold Value.write
    split
    · exact writePrimitive_namesKnown _ v
    · split
      · rw [Value.writeItems_eq]
        exact (failsWith_mapError (fun _ => trivial) _).bind
          (failsWith_writeAll fun w hw => ih w (.item hw) hkind)
      · exact mismatch_namesKnown _ _
    · split
      · exact writeEnum_namesKnown _ v
      · next m hm =>
        split
        · split
          · rw [Value.writeFields_eq]
            refine failsWith_writeAll fun f hf => ?_
            -- A field is missing, or its kind is one that the schema knows.
            have hfield := Schema.knows_of_mem (Schema.mem_of_resolve? hm).1 hf
            rw [Value.writeField]
            split
            · exact failsWith_throw trivial
            · next hv => exact ih _ (.field (mem_of_lookup_eq_some hv)) hfield
          · exact mismatch_namesKnown _ _
        · exact mismatch_namesKnown _ _
      · next hnone => exact absurd hnone (Schema.resolve?_isSome hkind.defines)
    · exact absurd hkind Schema.not_knows_unsupported

/-- A value is taken for a kind exactly if it conforms to it, and what is appended is its encoding.
    For the fields of a schema, a value that is refused is never refused for an unknown name. -/
theorem encodeField_isOk_iff_conforms (s : Schema) :
    (∀ kind v b, (∃ b', v.encodeField s kind b = .ok () b') ↔ Conforms s kind v) ∧
    (∀ kind v b b', v.encodeField s kind b = .ok () b' ↔
      ∃ e, Encodes s kind v e ∧ b' = b ++ e) ∧
    ∀ m ∈ s.messages, ∀ f ∈ m.fields, ∀ (v : Value) b err b',
      v.encodeField s f.kind b = .error err b' → ∀ name, err ≠ .unknownType name := by
  refine ⟨fun kind v b => ?_, fun kind v b b' => encodeField_eq_ok_iff,
    fun m hm f hf v b err b' h => ?_⟩
  · rw [conforms_iff_exists_encodes]
    simp only [encodeField_eq_ok_iff]
    refine ⟨?_, ?_⟩
    · rintro ⟨b', e, he, -⟩
      exact ⟨e, he⟩
    · rintro ⟨e, he⟩
      exact ⟨b ++ e, e, he, rfl⟩
  · exact ((write_namesKnown (Schema.knows_of_mem hm hf) v).allOrNothing h).ne

/-- An item with its fields out of order, a field too many and a signed count. -/
def countedItem (count : Int64) : Value :=
  .message "Item" [("count", .int count), ("note", .bool true), ("id", .uint 7),
    ("label", .string "hi")]

/-- An item conforms and is encoded unless its count is too great. As an array it is refused. -/
theorem encodeField_isOk_iff_conforms_item :
    let bytes : ByteArray := ⟨#[7, 0, 0, 0, 2, 0, 0, 0, 104, 105, 3, 0]⟩
    Conforms Game.schema (.named "Item") (countedItem 3) ∧
    Encodes Game.schema (.named "Item") (countedItem 3) bytes ∧
    ¬Conforms Game.schema (.named "Item") (countedItem 65536) ∧
    ∃ err, (countedItem 3).encodeField Game.schema (.array (.named "Item") .counted) .empty =
      .error err .empty ∧ ∀ name, err ≠ .unknownType name := by
  intro bytes
  obtain ⟨hconforms, hencodes, hnames⟩ := encodeField_isOk_iff_conforms Game.schema
  have hrun : (countedItem 3).encodeField Game.schema (.named "Item") .empty = .ok () bytes := rfl
  have hfails : (countedItem 65536).encodeField Game.schema (.named "Item") .empty =
      .error (.encode (.outOfRange 65536 ⟨false, .w16⟩)) .empty := rfl
  have hmem : Game.Decl.playerState ∈ Game.schema.messages := by
    simp [Schema.messages, Game.schema, Game.model]
  have hmismatch :
      (countedItem 3).encodeField Game.schema (.array (.named "Item") .counted) .empty =
        .error (.typeMismatch "Item[]" "message Item") .empty := rfl
  refine ⟨(hconforms _ _ .empty).1 ⟨bytes, hrun⟩, ?_, fun h => ?_, ?_⟩
  · obtain ⟨e, he, hbytes⟩ := (hencodes _ _ _ _).1 hrun
    rw [hbytes, ByteArray.empty_append]
    exact he
  · obtain ⟨b', hok⟩ := (hconforms _ _ .empty).2 h
    cases hfails.symm.trans hok
  · have hfield : ⟨"inventory", .array (.named "Item") .counted, 2, Game.place 26 16⟩ ∈
        Game.Decl.playerState.fields := by
      simp [Game.Decl.playerState]
    exact ⟨_, hmismatch, hnames _ hmem _ hfield _ _ _ _ hmismatch⟩

end WireSchema
