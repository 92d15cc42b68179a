import WireSchema.Proofs.Schema.Resolve
import WireSchema.Proofs.Wire.Forms
import WireSchema.Value.Decode

/-!
# The wire form of values

`Layout s kind v e` says that `e` is the wire form of the value `v` as one of a kind: integers with
the tag of the kind, and of messages exactly the declared fields in their order. It is said without
cursors and limits. The readers follow it exactly:

* what a reader takes is the form of what it gives (`Kind.read_consumes`,
  `Message.readWithin_consumes`);
* a form is taken wherever it stands (`Layout.accepts`), as long as the reader may nest deep enough
  (`Deep`), which messages always may (`Layout.readMessage_accepts`).

The second needs all that a schema promises. A form takes at least the bytes that the reader asks
for in advance (`Layout.minSize_le`), and the elements of a counted array at least one
(`Layout.weightless`). Going into a message lowers the rank of what is stored inline, and going into
a counted array leaves fewer bytes.
-/

namespace WireSchema

open Reader WireSchema.Number

/-! ## Forms -/

/-- The form of a value of a primitive kind. -/
inductive Primitive.Form : Primitive → Value → ByteArray → Prop
  | uint (w : Width) {n : Nat} (h : n ≤ w.unsignedMax) :
      Form (.int ⟨false, w⟩) (.uint (UInt64.ofNat n)) (leBytes w.bytes n).toByteArray
  | int (w : Width) {n : Int} (h : w.signedMin ≤ n ∧ n ≤ w.signedMax) :
      Form (.int ⟨true, w⟩) (.int (Int64.ofInt n)) (leBytesInt w.bytes n).toByteArray
  | single (x : Single) : Form .single (.float x.widen) (leBytes 4 x.bits.toNat).toByteArray
  | double (x : Double) : Form .double (.float x) (leBytes 8 x.bits.toNat).toByteArray
  | bool (b : Bool) : Form .bool (.bool b) (leBytes 1 b.toNat).toByteArray
  | string {t : String} (h : t.utf8ByteSize ≤ Width.w32.unsignedMax) :
      Form .string (.string t) ((leBytes 4 t.utf8ByteSize).toByteArray ++ t.toUTF8)

mutual

/-- The form of a value of a kind. -/
inductive Layout (s : Schema) : Kind → Value → ByteArray → Prop
  | primitive {p : Primitive} {v : Value} {e : ByteArray} (h : p.Form v e) :
      Layout s (.primitive p) v e
  | counted {element : Kind} {items : List Value} {e : ByteArray}
      (hlen : items.length ≤ Width.w32.unsignedMax) (h : ItemsLayout s element items e) :
      Layout s (.array element .counted) (.array items)
        ((leBytes 4 items.length).toByteArray ++ e)
  | fixed {element : Kind} {items : List Value} {e : ByteArray}
      (h : ItemsLayout s element items e) :
      Layout s (.array element (.fixed items.length)) (.array items) e
  | enumeration {name : String} {t : Enumeration} {n : Nat}
      (ht : s.resolve? name = some (.enumeration t)) (h : n ≤ t.wireWidth.unsignedMax) :
      Layout s (.named name) (.enumeration t.name (UInt64.ofNat n))
        (leBytes t.wireWidth.bytes n).toByteArray
  | message {name : String} {m : Message} {values : List (String × Value)} {e : ByteArray}
      (hm : s.resolve? name = some (.message m)) (h : FieldsLayout s m.fields values e) :
      Layout s (.named name) (.message m.name values) e

/-- The form of items of one kind, one behind the other. -/
inductive ItemsLayout (s : Schema) : Kind → List Value → ByteArray → Prop
  | nil {kind : Kind} : ItemsLayout s kind [] .empty
  | cons {kind : Kind} {v : Value} {items : List Value} {e e' : ByteArray}
      (h : Layout s kind v e) (h' : ItemsLayout s kind items e') :
      ItemsLayout s kind (v :: items) (e ++ e')

/-- The form of fields in the order of their declaration. -/
inductive FieldsLayout (s : Schema) : List Field → List (String × Value) → ByteArray → Prop
  | nil : FieldsLayout s [] [] .empty
  | cons {f : Field} {fields : List Field} {v : Value} {values : List (String × Value)}
      {e e' : ByteArray} (h : Layout s f.kind v e) (h' : FieldsLayout s fields values e') :
      FieldsLayout s (f :: fields) ((f.name, v) :: values) (e ++ e')

end

/-- Layouts one behind the other are that of the items. -/
theorem ItemsLayout.of_concat {s : Schema} {kind : Kind} {items : List Value} {e : ByteArray}
    (h : Concat (Layout s kind) items e) : ItemsLayout s kind items e := by
  induction h with
  | nil => exact .nil
  | cons ha _ ih => exact .cons ha ih

/-- The fields have the declared names in their order. -/
theorem FieldsLayout.keys_eq {s : Schema} {fields : List Field} {values : List (String × Value)}
    {e : ByteArray} : FieldsLayout s fields values e →
      values.map Prod.fst = fields.map Field.name
  | .nil => rfl
  | .cons _ h' => by rw [List.map_cons, List.map_cons, h'.keys_eq]

/-- The form of a message is that of its fields. -/
theorem layout_message_iff {s : Schema} {m : Message} (hm : m ∈ s.messages) {v : Value}
    {e : ByteArray} : Layout s (.named m.name) v e ↔
      ∃ values, v = .message m.name values ∧ FieldsLayout s m.fields values e := by
  have hresolve := Schema.resolve?_of_mem hm
  refine ⟨fun h => ?_, ?_⟩
  · cases h with
    | enumeration ht _ => cases hresolve.symm.trans ht
    | message hm' h' =>
      cases hresolve.symm.trans hm'
      exact ⟨_, rfl, h'⟩
  · rintro ⟨values, rfl, h⟩
    exact .message hresolve h

/-! ## Sizes -/

/-- The form of a primitive value has at least its least size. -/
theorem Primitive.Form.minSize_le {p : Primitive} {v : Value} {e : ByteArray} (h : p.Form v e) :
    p.minSize ≤ e.size := by
  cases h <;> simp [minSize]

theorem Primitive.minSize_pos (p : Primitive) : 0 < p.minSize := by
  cases p with
  | int t => exact t.width.bytes_pos
  | single | double | bool | string => decide

section

variable {s : Schema}

mutual

/-- A form takes at least the bytes that the kind asks for, however deep messages are followed. -/
theorem Layout.minSize_le {kind : Kind} {v : Value} {e : ByteArray} (depth : Nat) :
    Layout s kind v e → kind.minSize (s.model.nameMinSize depth) ≤ e.size
  | .primitive h => h.minSize_le
  | .counted _ _ => by simp [Kind.minSize]
  | .fixed h => Nat.le_trans (sizeMul_le _ _) (h.minSize_le depth)
  | .enumeration ht _ => by
    cases depth with
    | zero => exact Nat.zero_le _
    | succ depth =>
      rw [Kind.minSize, Model.nameMinSize, show s.model.resolve? _ = _ from ht]
      simp
  | .message hm h => by
    cases depth with
    | zero => exact Nat.zero_le _
    | succ depth =>
      rw [Kind.minSize, Model.nameMinSize, show s.model.resolve? _ = _ from hm]
      exact Nat.le_trans (h.minSize_le depth 0) (by simp)

/-- Items take at least their number times the least size of one. -/
theorem ItemsLayout.minSize_le {kind : Kind} {items : List Value} {e : ByteArray} (depth : Nat) :
    ItemsLayout s kind items e →
      items.length * kind.minSize (s.model.nameMinSize depth) ≤ e.size
  | .nil => by simp
  | .cons h h' => by
    have := h.minSize_le depth
    have := h'.minSize_le depth
    rw [List.length_cons, Nat.add_mul, ByteArray.size_append]
    omega

/-- Fields take at least the sum of their least sizes. -/
theorem FieldsLayout.minSize_le {fields : List Field} {values : List (String × Value)}
    {e : ByteArray} (depth n : Nat) : FieldsLayout s fields values e →
      fields.foldl (fun n f => sizeAdd n (f.kind.minSize (s.model.nameMinSize depth))) n ≤
        n + e.size
  | .nil => by simp
  | .cons (f := f) h h' => by
    have := h.minSize_le depth
    have := h'.minSize_le depth (sizeAdd n (f.kind.minSize (s.model.nameMinSize depth)))
    have := sizeAdd_le n (f.kind.minSize (s.model.nameMinSize depth))
    rw [List.foldl_cons, ByteArray.size_append]
    omega

end

mutual

/-- Only weightless kinds have an empty form. -/
theorem Layout.weightless {kind : Kind} {v : Value} {e : ByteArray} (he : e.size = 0) :
    Layout s kind v e → s.model.Weightless kind
  | .primitive (p := p) h => by
    have := p.minSize_pos
    have := h.minSize_le
    omega
  | .counted _ _ => by
    -- The count alone takes four bytes.
    rw [ByteArray.size_append] at he
    simp at he
  | .fixed h => by
    cases h with
    | nil => exact .empty _
    | cons h _ =>
      rw [ByteArray.size_append] at he
      exact .fixed _ (h.weightless (by omega))
  | .enumeration (t := t) _ _ => by
    have := t.wireWidth.bytes_pos
    simp at he
    omega
  | .message hm h => by
    obtain ⟨hmem, rfl⟩ := Schema.mem_of_resolve? hm
    exact .message hmem (h.weightless he)

/-- Fields without bytes are of kinds that take none. -/
theorem FieldsLayout.weightless {fields : List Field} {values : List (String × Value)}
    {e : ByteArray} (he : e.size = 0) : FieldsLayout s fields values e →
      ∀ f ∈ fields, s.model.Weightless f.kind
  | .nil => by simp
  | .cons h h' => by
    rw [ByteArray.size_append] at he
    exact List.forall_mem_cons.2
      ⟨h.weightless (by omega), h'.weightless (by omega)⟩

end

/-! ## What readers take -/

/-- The reader of a primitive type goes over the form of the value it gives. -/
theorem Primitive.read_consumes (p : Primitive) : p.read.Consumes p.Form := by
  cases p with
  | int t =>
    obtain ⟨signed, w⟩ := t
    cases signed with
    | false =>
      refine ((readUInt_consumes w).map _).mono ?_
      rintro _ _ ⟨n, ⟨hn, rfl⟩, rfl⟩
      exact .uint w hn
    | true =>
      refine ((readInt_consumes w).map _).mono ?_
      rintro _ _ ⟨n, ⟨hn, rfl⟩, rfl⟩
      exact .int w hn
  | single =>
    refine (readSingle_consumes.map _).mono ?_
    rintro _ _ ⟨x, rfl, rfl⟩
    exact .single x
  | double =>
    refine (readDouble_consumes.map _).mono ?_
    rintro _ _ ⟨x, rfl, rfl⟩
    exact .double x
  | bool =>
    refine (readBool_consumes.map _).mono ?_
    rintro _ _ ⟨b, rfl, rfl⟩
    exact .bool b
  | string =>
    refine (readString_consumes.map _).mono ?_
    rintro _ _ ⟨t, ⟨ht, rfl⟩, rfl⟩
    exact .string ht

/-- A kind is read in its form if messages are. -/
theorem Kind.read_consumes {message : Message → Reader ValueError Value}
    (hmessage : ∀ m, (message m).Consumes fun v e =>
      ∃ values, v = .message m.name values ∧ FieldsLayout s m.fields values e) (kind : Kind) :
    (kind.read s message).Consumes (Layout s kind) := by
  induction kind with
  | primitive p => exact (p.read_consumes.mapError _).mono fun _ _ h => .primitive h
  | array element len ih =>
    cases len with
    | counted =>
      rw [Kind.read]
      refine (((readCount_consumes _).mapError _).bind fun n =>
        (ih.times n).bind fun items => consumes_pure _).mono ?_
      rintro _ _ ⟨n, _, _, ⟨hn, rfl⟩, ⟨items, e, _, ⟨rfl, hitems⟩, ⟨rfl, rfl⟩, rfl⟩, rfl⟩
      rw [ByteArray.append_empty]
      exact .counted hn (.of_concat hitems)
    | fixed n =>
      -- Both tests in front of the items take nothing.
      intro c v c' hc h
      rw [Kind.read, Run.get_bind] at h
      split at h
      · cases h
      · split at h
        · cases h
        · obtain ⟨items, c₁, hitems, hv⟩ := Run.bind_eq_ok_iff.1 h
          obtain ⟨e, he, rfl, hconcat⟩ := ih.times n hc hitems
          cases hv
          exact ⟨e, he, .fixed (.of_concat hconcat)⟩
  | named name =>
    rw [Kind.read]
    split
    · next t ht =>
      refine (((readUInt_consumes _).mapError _).bind fun n => consumes_pure _).mono ?_
      rintro _ _ ⟨n, _, _, ⟨hn, rfl⟩, ⟨rfl, rfl⟩, rfl⟩
      rw [ByteArray.append_empty]
      exact .enumeration ht hn
    · next m hm =>
      refine (hmessage m).mono ?_
      rintro _ e ⟨values, rfl, hvalues⟩
      exact .message hm hvalues
    · exact fun _ _ _ _ h => nomatch h
  | unsupported text => exact fun _ _ _ _ h => nomatch h

/-- The readers of fields go over the layouts of the values one by one. -/
theorem readFields_consumes {read : Kind → Reader ValueError Value}
    (hread : ∀ kind, (read kind).Consumes (Layout s kind)) (fields : List Field) :
    (readFields read fields).Consumes (FieldsLayout s fields) := by
  induction fields with
  | nil =>
    refine (consumes_pure []).mono ?_
    rintro _ _ ⟨rfl, rfl⟩
    exact .nil
  | cons f fields ih =>
    refine ((hread f.kind).bind fun v => ih.bind fun values => consumes_pure _).mono ?_
    rintro _ _ ⟨v, e, _, hv, ⟨values, e', _, hvalues, ⟨rfl, rfl⟩, rfl⟩, rfl⟩
    rw [ByteArray.append_empty]
    exact .cons hv hvalues

/-- A message is read in its form, at any depth. -/
theorem Message.readWithin_consumes (depth : Nat) (m : Message) :
    (m.readWithin s depth).Consumes fun v e =>
      ∃ values, v = .message m.name values ∧ FieldsLayout s m.fields values e := by
  induction depth generalizing m with
  | zero => exact fun _ _ _ _ h => nomatch h
  | succ depth ih =>
    refine ((readFields_consumes (Kind.read_consumes ih) m.fields).bind fun values =>
      consumes_pure _).mono ?_
    rintro _ _ ⟨values, e, _, hvalues, ⟨rfl, rfl⟩, rfl⟩
    rw [ByteArray.append_empty]
    exact ⟨values, rfl, hvalues⟩

/-- The reader of a message goes over the layout of the message it gives. -/
theorem Value.readMessage_consumes {m : Message} (hm : m ∈ s.messages) :
    (Value.readMessage s m).Consumes (Layout s (.named m.name)) := by
  intro c v c' hc h
  rw [readMessage, Run.get_bind] at h
  obtain ⟨e, he, values, rfl, hvalues⟩ := Message.readWithin_consumes _ m hc h
  exact ⟨e, he, .message (Schema.resolve?_of_mem hm) hvalues⟩

/-! ## What readers accept -/

/-- A primitive value is read from its form. -/
theorem Primitive.Form.accepts {p : Primitive} {v : Value} {e : ByteArray} (h : p.Form v e) :
    p.read.Accepts v e := by
  cases h with
  | uint w h => exact (readUInt_accepts h).map _
  | int w h => exact (readInt_accepts h).map _
  | single x => exact (readSingle_accepts x).map _
  | double x => exact (readDouble_accepts x).map _
  | bool b => exact (readBool_accepts b).map _
  | string h => exact (readString_accepts h).map _

/-- Items that take bytes are no more than their bytes. -/
theorem ItemsLayout.length_le {kind : Kind} (hkind : ¬s.model.Weightless kind) {items : List Value}
    {e : ByteArray} : ItemsLayout s kind items e → items.length ≤ e.size
  | .nil => Nat.zero_le _
  | .cons (e := e) h h' => by
    have hpos : e.size ≠ 0 := fun he => hkind (h.weightless he)
    have := h'.length_le hkind
    rw [List.length_cons, ByteArray.size_append]
    omega

/-- The items of a counted array take the bytes that their count claims. -/
theorem ItemsLayout.claim_le {kind : Kind} (hkind : ¬s.model.Weightless kind) {items : List Value}
    {e : ByteArray} (h : ItemsLayout s kind items e) :
    items.length * max (s.minSize kind) 1 ≤ e.size := by
  rcases Nat.le_total (s.minSize kind) 1 with hle | hle
  · rw [Nat.max_eq_right hle, Nat.mul_one]
    exact h.length_le hkind
  · rw [Nat.max_eq_left hle]
    exact h.minSize_le _

/-- A reader that may nest to `depth` can read all values of the kind in `size` bytes. -/
structure Deep (s : Schema) (rank : String → Nat) (kind : Kind) (size depth : Nat) : Prop where
  /-- A message that the kind stores in itself takes its rank, and a circle for each byte. -/
  inline : ∀ m ∈ s.messages, kind.Stores m.name →
    (s.messages.length + 1) * size + rank m.name < depth
  /-- Messages in counted arrays have fewer bytes. -/
  counted : (s.messages.length + 1) * size ≤ depth

namespace Deep

variable {rank : String → Nat} {kind element : Kind} {size size' depth : Nat}

/-- A depth that suffices for some bytes suffices for fewer. -/
theorem mono (h : Deep s rank kind size depth) (hsize : size' ≤ size) :
    Deep s rank kind size' depth := by
  have hmul := Nat.mul_le_mul_left (s.messages.length + 1) hsize
  refine ⟨fun m hm hstores => ?_, Nat.le_trans hmul h.counted⟩
  exact Nat.lt_of_le_of_lt (Nat.add_le_add_right hmul _) (h.inline m hm hstores)

theorem fixed_element {n : Nat} (h : Deep s rank (.array element (.fixed n)) size depth) :
    Deep s rank element size depth :=
  ⟨fun m hm hstores => h.inline m hm (.fixed n hstores), h.counted⟩

/-- Behind its count an array has fewer bytes, so a message in it may begin anew. -/
theorem counted_element (hrank : s.IsRanking rank) {len : ArrayLen}
    (h : Deep s rank (.array element len) size depth) (hsize : size' < size) :
    Deep s rank element size' depth := by
  have hmul := Nat.mul_le_mul_left (s.messages.length + 1) (Nat.succ_le_of_lt hsize)
  rw [Nat.mul_succ] at hmul
  have hcounted := h.counted
  refine ⟨fun m hm _ => ?_, by omega⟩
  have := hrank.lt m hm
  omega

/-- One level down, the fields of a message store only messages of lower rank. -/
theorem field (hrank : s.IsRanking rank) {m : Message} (hm : m ∈ s.messages)
    (h : Deep s rank (.named m.name) size (depth + 1)) {f : Field} (hf : f ∈ m.fields) :
    Deep s rank f.kind size depth := by
  have hinline := h.inline m hm (.named _)
  refine ⟨fun b hb hstores => ?_, by omega⟩
  have := hrank.down m hm b hb f hf hstores
  omega

/-- The bound on the depth suffices for every layout in the data. -/
theorem of_depthBound (hrank : s.IsRanking rank) (kind : Kind) {total : Nat}
    (hsize : size ≤ total) : Deep s rank kind size (s.depthBound total) := by
  have hmul := Nat.mul_le_mul_left (s.messages.length + 1) hsize
  rw [Schema.depthBound, Nat.mul_succ]
  refine ⟨fun m hm _ => ?_, by omega⟩
  have := hrank.lt m hm
  omega

end Deep

theorem maxFixedLen_le_maxCount : maxFixedLen ≤ Value.maxCount := by decide

section

variable {rank : String → Nat}

mutual

/-- The form of a value is read back as the value, wherever it stands. -/
theorem Layout.accepts {kind : Kind} {v : Value} {e : ByteArray} {depth : Nat}
    (hrank : s.IsRanking rank) (hkind : s.Admits kind) (hdeep : Deep s rank kind e.size depth) :
    Layout s kind v e → (kind.read s (Message.readWithin s depth)).Accepts v e
  | .primitive h => h.accepts.mapError _
  | .counted (e := e) hlen h => by
    have hitems := h.accepts hrank hkind.element (hdeep.counted_element hrank (by simp))
    -- The reader refuses counts that the bytes cannot hold; the items are there, so this passes.
    have hclaim := h.claim_le (hkind.elements_weigh _ List.mem_cons_self)
    intro c c' hspan
    obtain ⟨c₁, h₁, h₂⟩ := hspan.split
    rw [Kind.read, Run.bind_of_ok (mapError_of_ok (readCount_of_spans hlen h₁ h₂ hclaim)),
      Run.bind_of_ok (accepts_times hitems h₂)]
    rfl
  | .fixed h => by
    have hitems := h.accepts hrank hkind.element hdeep.fixed_element
    -- The reader asks for the bytes in advance and bounds the length; a schema keeps both.
    have hmin := Nat.le_trans (sizeMul_le _ _) (h.minSize_le (s.messages.length + 1))
    have hlen := (hkind.supported _ List.mem_cons_self).2
    intro c c' hspan
    have hrem := hspan.remaining_eq
    rw [Kind.read, Run.get_bind, if_neg (by rw [Schema.minSize]; omega),
      if_neg (Nat.not_lt.2 (Nat.le_trans hlen maxFixedLen_le_maxCount)),
      Run.bind_of_ok (accepts_times hitems hspan)]
    rfl
  | .enumeration ht h => by
    rw [Kind.read, ht]
    exact (readUInt_accepts h).mapError _ |>.map _
  | .message hm h => by
    obtain ⟨hmem, rfl⟩ := Schema.mem_of_resolve? hm
    cases depth with
    -- A message that is stored here has a rank below the depth, so a level is left.
    | zero => exact absurd (hdeep.inline _ hmem (.named _)) (Nat.not_lt_zero _)
    | succ depth =>
      have hfields := h.accepts hrank (fun f hf => Schema.admits_of_mem hmem hf)
        fun f hf => hdeep.field hrank hmem hf
      rw [Kind.read, hm]
      exact hfields.map _

/-- Items are read from their layouts, each behind the one before. -/
theorem ItemsLayout.accepts {kind : Kind} {items : List Value} {e : ByteArray} {depth : Nat}
    (hrank : s.IsRanking rank) (hkind : s.Admits kind) (hdeep : Deep s rank kind e.size depth) :
    ItemsLayout s kind items e →
      Concat (fun v e => (kind.read s (Message.readWithin s depth)).Accepts v e) items e
  | .nil => .nil
  | .cons h h' => .cons (h.accepts hrank hkind (hdeep.mono (by simp)))
      (h'.accepts hrank hkind (hdeep.mono (by simp)))

/-- Fields are read from their layouts, each behind the one before. -/
theorem FieldsLayout.accepts {fields : List Field} {values : List (String × Value)}
    {e : ByteArray} {depth : Nat} (hrank : s.IsRanking rank)
    (hfields : ∀ f ∈ fields, s.Admits f.kind)
    (hdeep : ∀ f ∈ fields, Deep s rank f.kind e.size depth) :
    FieldsLayout s fields values e →
      (readFields (Kind.read s (Message.readWithin s depth)) fields).Accepts values e
  | .nil => accepts_pure []
  | .cons h h' => by
    obtain ⟨hf, hrest⟩ := List.forall_mem_cons.1 hfields
    obtain ⟨hdeepf, hdeeprest⟩ := List.forall_mem_cons.1 hdeep
    exact (h.accepts hrank hf (hdeepf.mono (by simp))).bind
      ((h'.accepts hrank hrest fun f hf => (hdeeprest f hf).mono (by simp)).map _)

end

/-- A message is read back from its form: the bound on the depth never gets in the way. -/
theorem Layout.readMessage_accepts {m : Message} (hm : m ∈ s.messages) {v : Value} {e : ByteArray}
    (h : Layout s (.named m.name) v e) : (Value.readMessage s m).Accepts v e := by
  obtain ⟨rank, hrank⟩ := s.exists_isRanking
  intro c c' hspan
  have hsize : e.size ≤ c.data.size := by
    have := hspan.index_eq
    have := hspan.le_size
    omega
  have haccepts := h.accepts hrank (Schema.admits_named _) (.of_depthBound hrank _ hsize) hspan
  rw [Kind.read, Schema.resolve?_of_mem hm] at haccepts
  rw [Value.readMessage, Run.get_bind]
  exact haccepts

end

end

end WireSchema
