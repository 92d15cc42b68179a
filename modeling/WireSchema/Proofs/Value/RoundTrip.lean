import WireSchema.Proofs.Value.Integers
import WireSchema.Proofs.Value.Layout
import WireSchema.Proofs.Value.Normal

/-!
# Reading back what was written

A value that can be written is read back in its normal form. What was written is the wire form of a
value that equals the normal form (`Value.writesForm`); the readers do the rest.

Of narrowing to 32 bits nothing is used but the test that the writer makes itself.
-/

namespace WireSchema

open Writer WireSchema.Number

namespace Value

/-! ## What is written is a form -/

variable {s : Schema} {e : ByteArray}

/-- An integer in range is written in the form of the value with the tag of the type. -/
theorem form_of_integer {t : IntType} {z : Int} (hz : t.min ≤ z ∧ z ≤ t.max) :
    (Primitive.int t).Form (t.tag z) (leBytesInt t.width.bytes z).toByteArray := by
  obtain ⟨signed, w⟩ := t
  cases signed with
  | true => exact .int w hz
  | false =>
    have hfits : 0 ≤ z ∧ z ≤ (w.unsignedMax : Int) := hz
    obtain ⟨h₀, h₁⟩ := (w.unsigned_bounds z).1 hfits
    rw [leBytesInt_of_nonneg h₀ h₁]
    exact .uint w (by omega)

/-- A primitive value is written as the form of its normal form. -/
theorem exists_form_of_writes {p : Primitive} {v : Value} (h : (v.writePrimitive p).Writes e) :
    ∃ w, p.Form w e ∧ (v.holdsNaN = false → w.same (v.norm s (.primitive p)) = true) := by
  unfold writePrimitive at h
  split at h
  · next t v =>
    obtain ⟨z, hv, hz, rfl⟩ := writeInteger_writes_iff.1 h
    refine ⟨_, form_of_integer hz, fun _ => ?_⟩
    rw [norm, hv]
    exact same_tag _ _
  · next x =>
    rw [writeNarrow] at h
    split at h
    · next hx =>
      rw [writeSingle, writeU32, writeBytes_writes_iff] at h
      subst h
      refine ⟨_, .single x.narrow, fun hnan => ?_⟩
      -- The number is the same after narrowing: the writer has tested it.
      exact (Bool.or_eq_true_iff.1 hx).resolve_right (Bool.eq_false_iff.1 hnan)
    · exact absurd h (not_writes_throw _)
  · next x =>
    rw [writeDouble, writeU64, writeBytes_writes_iff] at h
    subst h
    exact ⟨_, .double x, same_float⟩
  · next b =>
    rw [writeBool, writeU8, writeBytes_writes_iff] at h
    subst h
    refine ⟨.bool b, ?_, fun _ => by simp [norm, same]⟩
    cases b <;> exact .bool _
  · next t =>
    obtain ⟨ht, rfl⟩ := writeString_writes_iff.1 ((writes_mapError_iff _).1 h)
    exact ⟨_, .string ht, fun _ => by simp [norm, same]⟩
  · exact absurd h (not_writes_throw _)

/-- What is said of a value that can be written: it is written in the form of a value that equals
    its normal form. -/
def WritesForm (s : Schema) (v : Value) : Prop :=
  ∀ ⦃kind : Kind⦄ ⦃e : ByteArray⦄, (v.write s kind).Writes e →
    ∃ w, Layout s kind w e ∧ (v.holdsNaN = false → w.same (v.norm s kind) = true)

/-- Items are written as the layout of their normal forms. -/
theorem exists_itemsLayout_of_writes {element : Kind} {items : List Value}
    (hitems : ∀ v ∈ items, v.WritesForm s) (h : (writeItems s items element).Writes e) :
    ∃ ws, ItemsLayout s element ws e ∧ ws.length = items.length ∧
      ((∀ v ∈ items, v.holdsNaN = false) → sameItems ws (normItems s items element) = true) := by
  induction items generalizing e with
  | nil =>
    cases writes_pure_iff.1 h
    exact ⟨[], .nil, rfl, fun _ => rfl⟩
  | cons v items ih =>
    obtain ⟨hv, hrest⟩ := List.forall_mem_cons.1 hitems
    obtain ⟨e₁, e₂, h₁, h₂, rfl⟩ := (writes_bind_iff (v.write_appends s _)
      (writeItems_appends fun w _ => w.write_appends s _)).1 h
    obtain ⟨w, hw, hsame⟩ := hv h₁
    obtain ⟨ws, hws, hlen, hsames⟩ := ih hrest h₂
    refine ⟨w :: ws, .cons hw hws, by rw [List.length_cons, hlen, List.length_cons], fun hnan => ?_⟩
    obtain ⟨hnanv, hnanrest⟩ := List.forall_mem_cons.1 hnan
    rw [normItems, sameItems, hsame hnanv, hsames hnanrest]
    rfl

/-- Fields are written as the layout of their normal forms. -/
theorem exists_fieldsLayout_of_writes {m : Message} {values : List (String × Value)}
    (hvalues : ∀ p ∈ values, p.2.WritesForm s) {fields : List Field}
    (h : (writeFields m (fieldWriters s values) fields).Writes e) :
    ∃ ws, FieldsLayout s fields ws e ∧ ((∀ p ∈ values, p.2.holdsNaN = false) →
      List.Forall₂ (fun p q => p.1 = q.1 ∧ p.2.same q.2 = true) ws
        (normFields (fieldNorms s values) fields)) := by
  induction fields generalizing e with
  | nil =>
    cases writes_pure_iff.1 h
    exact ⟨[], .nil, fun _ => .nil⟩
  | cons f fields ih =>
    -- The normal form looks fields up in the same order as the writer does.
    have hrest : (writeFields m (fieldWriters s values) fields).Appends :=
      writeFields_appends (fun p _ kind => p.2.write_appends s kind) fields
    rw [writeFields, lookup_fieldWriters] at h
    rw [normFields, List.filterMap_cons, lookup_fieldNorms]
    cases hlookup : values.lookup f.name with
    | none =>
      rw [hlookup] at h
      obtain ⟨_, _, hthrow, -⟩ := (writes_bind_iff (appends_throw _) hrest).1 h
      exact absurd hthrow (not_writes_throw _)
    | some v =>
      rw [hlookup] at h
      have hmem := mem_of_lookup_eq_some hlookup
      obtain ⟨e₁, e₂, h₁, h₂, rfl⟩ := (writes_bind_iff (v.write_appends s _) hrest).1 h
      obtain ⟨w, hw, hsame⟩ := hvalues _ hmem h₁
      obtain ⟨ws, hws, hsames⟩ := ih h₂
      exact ⟨(f.name, w) :: ws, .cons hw hws, fun hnan =>
        .cons ⟨rfl, hsame (hnan _ hmem)⟩ (hsames hnan)⟩

/-- An array is written as the layout of its normal form. -/
theorem exists_layout_of_writes_array {element : Kind} {len : ArrayLen} {items : List Value}
    (hitems : ∀ v ∈ items, v.WritesForm s)
    (h : ((array items).write s (.array element len)).Writes e) :
    ∃ w, Layout s (.array element len) w e ∧
      ((array items).holdsNaN = false →
        w.same ((array items).norm s (.array element len)) = true) := by
  rw [write] at h
  obtain ⟨e₁, e₂, h₁, h₂, rfl⟩ := (writes_bind_iff ((writeArrayLen_appends _ _).mapError _)
    (writeItems_appends fun w _ => w.write_appends s _)).1 h
  obtain ⟨ws, hws, hlen, hsame⟩ := exists_itemsLayout_of_writes hitems h₂
  refine ⟨array ws, ?_, fun hnan => ?_⟩
  · rw [writes_mapError_iff, ← hlen] at h₁
    cases len with
    | counted =>
      obtain ⟨hn, rfl⟩ := writeLen_writes_iff.1 h₁
      exact .counted hn hws
    | fixed n =>
      rw [writeArrayLen] at h₁
      split at h₁
      · next hn =>
        -- A fixed length leaves no trace on the wire: the kind has it.
        cases writes_pure_iff.1 h₁
        subst hn
        rw [ByteArray.empty_append]
        exact .fixed hws
      · exact absurd h₁ (not_writes_throw _)
  · rw [norm, same]
    exact hsame fun v hv => holdsNaN_eq_false_of_part (.item hv) hnan

/-- An enum value is written as the layout of its normal form. -/
theorem exists_layout_of_writeEnum {name : String} {t : Enumeration} {v : Value}
    (ht : s.resolve? name = some (.enumeration t)) (h : (v.writeEnum t).Writes e) :
    ∃ w, Layout s (.named name) w e ∧ w.same (v.norm s (.named name)) = true := by
  unfold writeEnum at h
  split at h
  · next type n =>
    split at h
    · next htype =>
      obtain ⟨hn, rfl⟩ := writeUInt_writes_iff.1 ((writes_mapError_iff _).1 h)
      refine ⟨_, .enumeration ht hn, ?_⟩
      rw [norm, ht, eq_of_beq htype]
      simp [same]
    · exact absurd h (not_writes_throw _)
  · exact absurd h (not_writes_throw _)

/-- A message is written as the layout of its normal form. -/
theorem exists_layout_of_writeFields {name : String} {m : Message} {values : List (String × Value)}
    (hm : s.resolve? name = some (.message m)) (hvalues : ∀ p ∈ values, p.2.WritesForm s)
    (h : (writeFields m (fieldWriters s values) m.fields).Writes e) :
    ∃ w, Layout s (.named name) w e ∧ ((message m.name values).holdsNaN = false →
      w.same ((message m.name values).norm s (.named name)) = true) := by
  obtain ⟨ws, hws, hsame⟩ := exists_fieldsLayout_of_writes hvalues h
  refine ⟨_, .message hm hws, fun hnan => ?_⟩
  rw [norm, hm]
  refine same_message_of_forall₂ (hsame fun p hp => holdsNaN_eq_false_of_part (.field hp) hnan) ?_
  rw [hws.keys_eq]
  exact Schema.nodup_fields (Schema.mem_of_resolve? hm).1

/-- What is written is the wire form of the normal form, up to equality. -/
theorem writesForm (s : Schema) (v : Value) : v.WritesForm s := by
  induction v using Value.induction with
  | step v ih =>
    intro kind e h
    -- Arrays are taken care of as a whole, so the hypothesis is kept as it was.
    have h' := h
    unfold write at h
    split at h
    · obtain ⟨w, hw, hsame⟩ := exists_form_of_writes h
      exact ⟨w, .primitive hw, hsame⟩
    · split at h
      · exact exists_layout_of_writes_array (fun w hw => ih w (.item hw)) h'
      · exact absurd h (not_writes_throw _)
    · split at h
      · next ht =>
        obtain ⟨w, hw, hsame⟩ := exists_layout_of_writeEnum ht h
        exact ⟨w, hw, fun _ => hsame⟩
      · next hm =>
        split at h
        · split at h
          · next htype =>
            cases eq_of_beq htype
            exact exists_layout_of_writeFields hm (fun p hp => ih p.2 (.field hp)) h
          · exact absurd h (not_writes_throw _)
        · exact absurd h (not_writes_throw _)
      · exact absurd h (not_writes_throw _)
    · exact absurd h (not_writes_throw _)

/-! ## Messages -/

/-- The message of the schema that a value belongs to. -/
def messageIn? (s : Schema) : Value → Option Message
  | message name _ => s.message? name
  | _ => none

/-- A value that belongs to a message is found by the name of the message. -/
theorem mem_of_messageIn? {v : Value} {m : Message} (h : v.messageIn? s = some m) :
    m ∈ s.messages ∧ s.message? m.name = some m := by
  cases v with
  | message name fields =>
    obtain ⟨hm, rfl⟩ := Schema.message?_eq_some h
    exact ⟨hm, h⟩
  | uint _ | int _ | float _ | bool _ | string _ | array _ | enumeration _ _ => cases h

/-- The normal form of a message. -/
def normMessage (s : Schema) (v : Value) : Value :=
  match v with
  | message name _ => v.norm s (.named name)
  | _ => v

/-- A message that can be encoded is read back wherever its bytes stand. -/
theorem exists_accepts_of_encode {v : Value} (h : v.encode s = .ok e) :
    ∃ m w, v.messageIn? s = some m ∧ (readMessage s m).Accepts w e ∧
      (v.holdsNaN = false → w.same (v.normMessage s) = true) := by
  unfold encode at h
  split at h
  · next name fields =>
    split at h
    · cases h
    · next m hm =>
      obtain ⟨hmem, rfl⟩ := Schema.message?_eq_some hm
      obtain ⟨w, hw, hsame⟩ := writesForm s _ ((write_appends s _ _).toBytes_eq_ok_iff.1 h)
      exact ⟨m, w, hm, hw.readMessage_accepts hmem, hsame⟩
  · cases h

/-- Encodings one behind the other are read back one after the other. -/
theorem exists_accepts_of_encodes {vs : List Value} {parts : List ByteArray}
    (h : List.Forall₂ (fun v e => v.encode s = .ok e) vs parts)
    (hnan : ∀ v ∈ vs, v.holdsNaN = false) :
    ∃ ms ws, List.Forall₂ (fun v m => v.messageIn? s = some m) vs ms ∧
      (ms.mapM (readMessage s)).Accepts ws (parts.foldr (· ++ ·) .empty) ∧
      List.Forall₂ (fun w v => w.same (v.normMessage s) = true) ws vs := by
  induction h with
  | nil => exact ⟨[], [], .nil, Reader.accepts_pure [], .nil⟩
  | cons hv _ ih =>
    obtain ⟨hnanv, hnanvs⟩ := List.forall_mem_cons.1 hnan
    obtain ⟨m, w, hm, hw, hsame⟩ := exists_accepts_of_encode hv
    obtain ⟨ms, ws, hms, hws, hsames⟩ := ih hnanvs
    refine ⟨m :: ms, w :: ws, .cons hm hms, ?_, .cons (hsame hnanv) hsames⟩
    rw [List.mapM_cons]
    exact hw.bind (hws.map _)

/-- Reading a message gives back what was written, up to the normal form, and stops right behind it;
    a value that has the declared fields and tags is its normal form; and messages written one
    behind the other are read back one after the other. -/
theorem readMessage_encode (s : Schema) :
    (∀ (v : Value) (bytes p t : ByteArray), v.encode s = .ok bytes → v.holdsNaN = false →
      ∃ m w, v.messageIn? s = some m ∧
        readMessage s m ⟨p ++ bytes ++ t, p.size⟩ =
          .ok w ⟨p ++ bytes ++ t, p.size + bytes.size⟩ ∧
        w.same (v.normMessage s) = true) ∧
    (∀ (v : Value) (m : Message), v.messageIn? s = some m → v.Exact s (.named m.name) →
      v.holdsNaN = false → (v.normMessage s).same v = true) ∧
    (∀ (vs : List Value) (parts : List ByteArray) (p t : ByteArray),
      List.Forall₂ (fun v e => v.encode s = .ok e) vs parts → (∀ v ∈ vs, v.holdsNaN = false) →
      let bytes := parts.foldr (· ++ ·) .empty
      ∃ ms ws, List.Forall₂ (fun v m => v.messageIn? s = some m) vs ms ∧
        ms.mapM (readMessage s) ⟨p ++ bytes ++ t, p.size⟩ =
          .ok ws ⟨p ++ bytes ++ t, p.size + bytes.size⟩ ∧
        List.Forall₂ (fun w v => w.same (v.normMessage s) = true) ws vs) := by
  refine ⟨fun v bytes p t h hnan => ?_, fun v m hm hexact hnan => ?_,
    fun vs parts p t h hnan => ?_⟩
  · obtain ⟨m, w, hm, hw, hsame⟩ := exists_accepts_of_encode h
    exact ⟨m, w, hm, hw (.between p bytes t), hsame hnan⟩
  · cases v with
    | message name fields =>
      obtain ⟨-, rfl⟩ := Schema.message?_eq_some hm
      exact same_norm_of_exact hexact hnan
    | bool | uint | int | float | string | array | enumeration => cases hm
  · obtain ⟨ms, ws, hms, hws, hsames⟩ := exists_accepts_of_encodes h hnan
    exact ⟨ms, ws, hms, hws (.between p _ t), hsames⟩

/-- A tree whose fields are out of order, with a field too many and a signed number. -/
def looseTree : Value :=
  .message "TreeNode" [
    ("children", .array [.message "TreeNode" [("value", .int 5), ("children", .array [])]]),
    ("note", .bool true),
    ("value", .uint 7)]

/-- A line of chat as it is declared. -/
def plainLine : Value :=
  .message "ChatLine" [("text", .string "hi")]

/-- The loose tree is read back in its normal form from between stray bytes, alone and in front of a
    line. -/
theorem readMessage_encode_looseTree :
    let tree : ByteArray := ⟨#[7, 0, 0, 0, 1, 0, 0, 0, 5, 0, 0, 0, 0, 0, 0, 0]⟩
    let line : ByteArray := ⟨#[2, 0, 0, 0, 104, 105]⟩
    let stray : ByteArray := ⟨#[255]⟩
    (∃ m w, looseTree.messageIn? Game.schema = some m ∧
      readMessage Game.schema m ⟨stray ++ tree ++ stray, 1⟩ = .ok w ⟨stray ++ tree ++ stray, 17⟩ ∧
      w.same (looseTree.normMessage Game.schema) = true) ∧
    (plainLine.normMessage Game.schema).same plainLine = true ∧
    ∃ ms ws, List.Forall₂ (fun v m => v.messageIn? Game.schema = some m)
        [looseTree, plainLine] ms ∧
      ms.mapM (readMessage Game.schema) ⟨stray ++ (tree ++ (line ++ .empty)) ++ stray, 1⟩ =
        .ok ws ⟨stray ++ (tree ++ (line ++ .empty)) ++ stray, 23⟩ ∧
      List.Forall₂ (fun w v => w.same (v.normMessage Game.schema) = true) ws
        [looseTree, plainLine] := by
  intro tree line stray
  obtain ⟨hone, hexact, hlist⟩ := readMessage_encode Game.schema
  have htree : looseTree.encode Game.schema = .ok tree := by decide +kernel
  have hline : plainLine.encode Game.schema = .ok line := by decide +kernel
  have hmem : Game.Decl.chatLine ∈ Game.schema.messages := by
    simp [Schema.messages, Game.schema, Game.model]
  refine ⟨hone looseTree tree stray stray htree (by decide), ?_, ?_⟩
  · refine hexact plainLine Game.Decl.chatLine (Schema.message?_of_mem hmem)
      (.message _ (Schema.resolve?_of_mem hmem) (.refl _) fun f hf v hv => ?_) (by decide)
    cases List.mem_singleton.1 hf
    cases hv
    exact .string "hi"
  · exact hlist [looseTree, plainLine] [tree, line] stray stray (.cons htree (.cons hline .nil))
      (by decide)

end Value

end WireSchema
