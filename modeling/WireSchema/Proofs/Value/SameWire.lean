import WireSchema.Proofs.Value.Write
import WireSchema.Value.Decode

/-!
# Schemas with the same wire format

Reading and writing look at a schema only through its names and identifiers: at the message behind
them, and at the name and the width of an enum. Two schemas that show the same there
(`Schema.SameWire`) have the same least sizes, write the same bytes or fail with the same errors,
and read the same values up to the same place.
-/

namespace WireSchema

/-- What two names stand for is the same on the wire: nothing, one message, or enums with one name
    and one width. -/
inductive TypeRef.Alike : Option TypeRef → Option TypeRef → Prop
  | none : Alike none none
  | message (m : Message) : Alike (some (.message m)) (some (.message m))
  | enumeration {e e' : Enumeration} (hname : e.name = e'.name)
      (hwidth : e.wireWidth = e'.wireWidth) :
      Alike (some (.enumeration e)) (some (.enumeration e'))

/-- What a name stands for is alike itself. -/
theorem TypeRef.Alike.refl (ref : Option TypeRef) : Alike ref ref := by
  cases ref with
  | none => exact .none
  | some ref =>
    cases ref with
    | message m => exact .message m
    | enumeration e => exact .enumeration rfl rfl

/-- Two schemas show the same under every name and identifier. -/
structure Schema.SameWire (s t : Schema) : Prop where
  length_eq : s.messages.length = t.messages.length
  message?_eq : ∀ name, s.message? name = t.message? name
  messageById?_eq : ∀ id, s.messageById? id = t.messageById? id
  resolve?_alike : ∀ name, TypeRef.Alike (s.resolve? name) (t.resolve? name)

/-- Items are written alike if each of them is. -/
theorem Value.writeItems_congr {s t : Schema} {element : Kind} {items : List Value}
    (h : ∀ v ∈ items, v.write s element = v.write t element) :
    writeItems s items element = writeItems t items element := by
  induction items with
  | nil => rfl
  | cons v items ih =>
    obtain ⟨hv, hitems⟩ := List.forall_mem_cons.1 h
    rw [writeItems, writeItems, hv, ih hitems]

/-- Fields are written alike if each of their values is. -/
theorem Value.fieldWriters_congr {s t : Schema} {fields : List (String × Value)}
    (h : ∀ p ∈ fields, p.2.write s = p.2.write t) :
    fieldWriters s fields = fieldWriters t fields := by
  rw [fieldWriters_eq, fieldWriters_eq]
  exact List.map_congr_left fun p hp => by rw [h p hp]

namespace Schema.SameWire

variable {s t : Schema} (h : s.SameWire t)

include h

/-! ## Sizes -/

/-- Types have the same least size in both schemas. -/
theorem nameMinSize_eq (depth : Nat) (name : String) :
    s.model.nameMinSize depth name = t.model.nameMinSize depth name := by
  induction depth generalizing name with
  | zero => rfl
  | succ depth ih =>
    have halike : TypeRef.Alike (s.model.resolve? name) (t.model.resolve? name) :=
      h.resolve?_alike name
    have hnamed : s.model.nameMinSize depth = t.model.nameMinSize depth := funext ih
    rw [Model.nameMinSize, Model.nameMinSize, hnamed]
    generalize s.model.resolve? name = ref, t.model.resolve? name = ref' at halike
    cases halike with
    | none | message => rfl
    | enumeration hname hwidth => simp only [hwidth]

/-- Kinds have the same least size in both schemas. -/
theorem minSize_eq (kind : Kind) : s.minSize kind = t.minSize kind := by
  rw [minSize, minSize, h.length_eq, funext (h.nameMinSize_eq _)]

/-! ## Writing -/

/-- Values are written alike in both schemas, by induction on the value. -/
theorem write_eq (v : Value) (kind : Kind) : v.write s kind = v.write t kind := by
  induction v using Value.induction generalizing kind with
  | step v ih =>
    unfold Value.write
    cases kind with
    | primitive | unsupported => rfl
    | array element len =>
      cases v with
      | array items => simp only [Value.writeItems_congr fun w hw => ih w (.item hw) element]
      | _ => rfl
    | named name =>
      -- Of an enum only the name and the width are looked at, which are the same on both sides.
      have halike := h.resolve?_alike name
      dsimp only
      generalize s.resolve? name = ref, t.resolve? name = ref' at halike
      cases halike with
      | none => rfl
      | message m =>
        cases v with
        | message type fields =>
          simp only [Value.fieldWriters_congr fun p hp => funext (ih p.2 (.field hp))]
        | _ => rfl
      | enumeration hname hwidth => simp only [Value.writeEnum, hname, hwidth]

/-- Values have the same bytes in both schemas. -/
theorem encode_eq (v : Value) : v.encode s = v.encode t := by
  cases v with
  | message name fields => simp only [Value.encode, h.message?_eq, h.write_eq]
  | _ => rfl

/-! ## Reading -/

/-- Kinds are read alike in both schemas, if messages are read by the same reader. -/
theorem kindRead_eq (message : Message → Reader ValueError Value) (kind : Kind) :
    kind.read s message = kind.read t message := by
  induction kind with
  | primitive | unsupported => rfl
  | array element len ih =>
    cases len <;> simp only [Kind.read, h.minSize_eq, ih]
  | named name =>
    have halike := h.resolve?_alike name
    rw [Kind.read, Kind.read]
    generalize s.resolve? name = ref, t.resolve? name = ref' at halike
    cases halike with
    | none | message => rfl
    | enumeration hname hwidth => simp only [hname, hwidth]

/-- Messages are read alike in both schemas, by induction on the bound on the depth. -/
theorem readWithin_eq (depth : Nat) (m : Message) :
    m.readWithin s depth = m.readWithin t depth := by
  induction depth generalizing m with
  | zero => rfl
  | succ depth ih =>
    have hmessage : Message.readWithin s depth = Message.readWithin t depth := funext ih
    rw [Message.readWithin, Message.readWithin, hmessage, funext (h.kindRead_eq _)]

/-- The bound on the depth is the same in both schemas, so messages are read alike. -/
theorem readMessage_eq (m : Message) : Value.readMessage s m = Value.readMessage t m := by
  simp only [Value.readMessage, depthBound, h.length_eq, h.readWithin_eq]

theorem decode_eq (name : String) (data : ByteArray) :
    Value.decode s name data = Value.decode t name data := by
  simp only [Value.decode, h.message?_eq, h.readMessage_eq]

theorem decodeFrame_eq (id : UInt32) (data : ByteArray) :
    Value.decodeFrame s id data = Value.decodeFrame t id data := by
  simp only [Value.decodeFrame, h.messageById?_eq, h.readMessage_eq]

end Schema.SameWire

end WireSchema
