import WireSchema.Proofs.Value.Layout
import WireSchema.Wire.OpenEnum

/-!
# Types that stand for kinds

Code for one schema has a type for every kind that the schema uses: machine integers, texts, lists
and vectors, open enums, and a structure for each message. A type stands for a kind (`Typed`) when
its values are told as dynamic values of the kind.

The readers of such types are put together from readers of their parts. This module goes the same
way with one property, `ReadsLayout`: the reader takes the wire forms of the kind and nothing else,
and gives the values of these forms. Two readers of one kind then give the same
(`ReadsLayout.eq_ok_iff`), whatever types they read into.
-/

namespace WireSchema

open Reader WireSchema.Number

/-- A type whose values are values of a kind. -/
class Typed (α : Type) where
  /-- The kind that the type stands for. -/
  kind : Kind
  /-- The dynamic value with the same content. -/
  toValue : α → Value

namespace Typed

instance : Typed UInt8 := ⟨.primitive (.int ⟨false, .w8⟩), fun n => .uint n.toUInt64⟩

instance : Typed UInt16 := ⟨.primitive (.int ⟨false, .w16⟩), fun n => .uint n.toUInt64⟩

instance : Typed UInt32 := ⟨.primitive (.int ⟨false, .w32⟩), fun n => .uint n.toUInt64⟩

instance : Typed UInt64 := ⟨.primitive (.int ⟨false, .w64⟩), .uint⟩

instance : Typed Int8 := ⟨.primitive (.int ⟨true, .w8⟩), fun n => .int n.toInt64⟩

instance : Typed Int16 := ⟨.primitive (.int ⟨true, .w16⟩), fun n => .int n.toInt64⟩

instance : Typed Int32 := ⟨.primitive (.int ⟨true, .w32⟩), fun n => .int n.toInt64⟩

instance : Typed Int64 := ⟨.primitive (.int ⟨true, .w64⟩), .int⟩

instance : Typed Single := ⟨.primitive .single, fun x => .float x.widen⟩

instance : Typed Double := ⟨.primitive .double, .float⟩

instance : Typed Bool := ⟨.primitive .bool, .bool⟩

instance : Typed String := ⟨.primitive .string, .string⟩

variable {α : Type}

instance [WireEnum α] : Typed (OpenEnum α) :=
  ⟨.named (WireEnum.name α), fun v => .enumeration (WireEnum.name α) v.raw⟩

instance [Typed α] : Typed (List α) :=
  ⟨.array (kind α) .counted, fun as => .array (as.map toValue)⟩

instance [Typed α] (n : Nat) : Typed (Vector α n) :=
  ⟨.array (kind α) (.fixed n), fun as => .array (as.toList.map toValue)⟩

/-- A structure for a message with the given name, by its fields. -/
abbrev ofFields (name : String) (fields : α → List (String × Value)) : Typed α :=
  ⟨.named name, fun a => .message name (fields a)⟩

end Typed

/-! ## Readers of a kind -/

/-- The reader takes the forms of a kind, if they are smaller than `n`, and nothing else, and gives
    their values. -/
structure ReadsLayout {ε : Type} (s : Schema) (kind : Kind) (n : Nat) (r : Reader ε Value) :
    Prop where
  consumes : r.Consumes (Layout s kind)
  accepts : ∀ ⦃v : Value⦄ ⦃e : ByteArray⦄, Layout s kind v e → e.size < n → r.Accepts v e

/-- The reader is one of the kind that its type stands for. -/
def Typed.Reads {α : Type} [Typed α] (s : Schema) (n : Nat) (r : Reader DecodeError α) : Prop :=
  ReadsLayout s (kind α) n (toValue <$> r)

/-- The reader gives what `values` tells of its result: the fields read before, and behind them
    those that it takes. -/
structure ReadsFields {ε α : Type} (s : Schema) (values : α → List (String × Value))
    (front : List (String × Value)) (fields : List Field) (n : Nat) (r : Reader ε α) : Prop where
  consumes : (values <$> r).Consumes fun vs e =>
    ∃ rest, vs = front ++ rest ∧ FieldsLayout s fields rest e
  accepts : ∀ ⦃rest : List (String × Value)⦄ ⦃e : ByteArray⦄, FieldsLayout s fields rest e →
    e.size < n → (values <$> r).Accepts (front ++ rest) e

section

variable {ε ε' α β : Type} {s : Schema} {kind : Kind} {n : Nat}

/-- Two readers of a kind give the same values and stop at the same places. -/
theorem ReadsLayout.eq_ok_iff {r : Reader ε Value} {r' : Reader ε' Value}
    (h : ∀ n, ReadsLayout s kind n r) (h' : ∀ n, ReadsLayout s kind n r') {c c' : Cursor}
    {v : Value} (hc : c.index ≤ c.data.size) : r c = .ok v c' ↔ r' c = .ok v c' := by
  refine ⟨fun hr => ?_, fun hr => ?_⟩
  · obtain ⟨e, hspan, hlayout⟩ := (h 0).consumes hc hr
    exact (h' _).accepts hlayout (Nat.lt_succ_self _) hspan
  · obtain ⟨e, hspan, hlayout⟩ := (h' 0).consumes hc hr
    exact (h _).accepts hlayout (Nat.lt_succ_self _) hspan

/-- What a reader of a kind accepts has the least size of the kind. -/
theorem Typed.Reads.minSize_le [Typed α] {r : Reader DecodeError α} (h : Typed.Reads s n r) {a : α}
    {e : ByteArray} (ha : r.Accepts a e) : s.minSize (Typed.kind α) ≤ e.size :=
  (h.consumes.of_accepts (ha.map _)).minSize_le _

/-- The dynamic reader of a message is one of its kind. -/
theorem Value.readMessage_reads {m : Message} (hm : m ∈ s.messages) (n : Nat) :
    ReadsLayout s (.named m.name) n (Value.readMessage s m) :=
  ⟨readMessage_consumes hm, fun _ _ hlayout _ => hlayout.readMessage_accepts hm⟩

/-! ### Primitives -/

/-- A reader into another type is one of its kind if it gives what the dynamic reader gives. -/
theorem Primitive.reads_of_map {r : Reader DecodeError α} {p : Primitive} {toValue : α → Value}
    (h : toValue <$> r = p.read) : ReadsLayout s (.primitive p) n (toValue <$> r) := by
  rw [h]
  refine ⟨p.read_consumes.mono fun _ _ => .primitive, fun v e hlayout _ => ?_⟩
  cases hlayout with
  | primitive hform => exact hform.accepts

/-- An unsigned integer of any type is read as its value is. -/
theorem readUInt_reads {w : Width} {of : Nat → α} {toValue : α → Value}
    (h : ∀ k, k ≤ w.unsignedMax → toValue (of k) = .uint (UInt64.ofNat k)) :
    ReadsLayout s (.primitive (.int ⟨false, w⟩)) n (toValue <$> of <$> readUInt w) := by
  refine Primitive.reads_of_map ?_
  rw [← comp_map]
  exact Run.map_congr fun c k c' hk => h k (readUInt_le hk)

/-- A signed integer of any type is read as its value is. -/
theorem readInt_reads {w : Width} {of : Int → α} {toValue : α → Value}
    (h : ∀ k, w.signedMin ≤ k ∧ k ≤ w.signedMax → toValue (of k) = .int (Int64.ofInt k)) :
    ReadsLayout s (.primitive (.int ⟨true, w⟩)) n (toValue <$> of <$> readInt w) := by
  refine Primitive.reads_of_map ?_
  rw [← comp_map]
  exact Run.map_congr fun c k c' hk => h k (readInt_bounds hk)

theorem readU8_reads : Typed.Reads s n readU8 :=
  readUInt_reads fun k hk => by
    refine congrArg Value.uint (UInt64.toNat_inj.1 ?_)
    rw [UInt8.toNat_toUInt64, UInt8.toNat_ofNat_of_lt' (Nat.lt_succ_of_le hk),
      toNat_ofNat_of_le_unsignedMax hk]

theorem readU16_reads : Typed.Reads s n readU16 :=
  readUInt_reads fun k hk => by
    refine congrArg Value.uint (UInt64.toNat_inj.1 ?_)
    rw [UInt16.toNat_toUInt64, UInt16.toNat_ofNat_of_lt' (Nat.lt_succ_of_le hk),
      toNat_ofNat_of_le_unsignedMax hk]

theorem readU32_reads : Typed.Reads s n readU32 :=
  readUInt_reads fun k hk => by
    refine congrArg Value.uint (UInt64.toNat_inj.1 ?_)
    rw [UInt32.toNat_toUInt64, UInt32.toNat_ofNat_of_lt' (Nat.lt_succ_of_le hk),
      toNat_ofNat_of_le_unsignedMax hk]

theorem readU64_reads : Typed.Reads s n readU64 :=
  readUInt_reads fun _ _ => rfl

theorem readI8_reads : Typed.Reads s n readI8 :=
  readInt_reads fun k hk => by
    have hmin : -128 ≤ k := hk.1
    have hmax : k ≤ 127 := hk.2
    refine congrArg Value.int (Int64.toInt_inj.1 ?_)
    rw [Int8.toInt_toInt64, Int8.toInt_ofInt_of_le (by omega) (by omega),
      toInt_ofInt_of_signed_bounds hk]

theorem readI16_reads : Typed.Reads s n readI16 :=
  readInt_reads fun k hk => by
    have hmin : -32768 ≤ k := hk.1
    have hmax : k ≤ 32767 := hk.2
    refine congrArg Value.int (Int64.toInt_inj.1 ?_)
    rw [Int16.toInt_toInt64, Int16.toInt_ofInt_of_le (by omega) (by omega),
      toInt_ofInt_of_signed_bounds hk]

theorem readI32_reads : Typed.Reads s n readI32 :=
  readInt_reads fun k hk => by
    have hmin : -2147483648 ≤ k := hk.1
    have hmax : k ≤ 2147483647 := hk.2
    refine congrArg Value.int (Int64.toInt_inj.1 ?_)
    rw [Int32.toInt_toInt64, Int32.toInt_ofInt_of_le (by omega) (by omega),
      toInt_ofInt_of_signed_bounds hk]

theorem readI64_reads : Typed.Reads s n readI64 :=
  readInt_reads fun _ _ => rfl

theorem readSingle_reads : Typed.Reads s n readSingle :=
  Primitive.reads_of_map rfl

theorem readDouble_reads : Typed.Reads s n readDouble :=
  Primitive.reads_of_map rfl

theorem readBool_reads : Typed.Reads s n readBool :=
  Primitive.reads_of_map rfl

theorem readString_reads : Typed.Reads s n readString :=
  Primitive.reads_of_map rfl

/-! ### Enums -/

/-- The schema declares the enum `t` that a type stands for. -/
structure WireEnum.Declared (s : Schema) (α : Type) [WireEnum α] (t : Enumeration) : Prop where
  resolve : s.resolve? (WireEnum.name α) = some (.enumeration t)
  name_eq : t.name = WireEnum.name α
  width_eq : t.wireWidth = WireEnum.width α
  /-- An integer that is known belongs to its member. -/
  toValue_eq : ∀ (raw : UInt64) (a : α), WireEnum.ofValue? raw = some a → WireEnum.toValue a = raw

/-- An enum keeps its integer, whether a member has it or not. -/
theorem OpenEnum.raw_ofRaw [WireEnum α] {t : Enumeration} (ht : WireEnum.Declared s α t)
    (raw : UInt64) : (OpenEnum.ofRaw raw : OpenEnum α).raw = raw := by
  rw [OpenEnum.ofRaw]
  split
  · next a h => exact ht.toValue_eq raw a h
  · rfl

/-- An enum is read as its value is. -/
theorem OpenEnum.read_reads [WireEnum α] {t : Enumeration} (ht : WireEnum.Declared s α t) :
    Typed.Reads s n (OpenEnum.read α) := by
  have hread : Typed.toValue <$> OpenEnum.read α =
      (fun k => Value.enumeration t.name (UInt64.ofNat k)) <$> readUInt t.wireWidth := by
    rw [OpenEnum.read, bind_pure_comp, ← comp_map, ht.width_eq, ht.name_eq]
    refine Run.map_congr fun _ k _ _ => ?_
    exact congrArg (Value.enumeration (WireEnum.name α)) (OpenEnum.raw_ofRaw ht _)
  rw [Typed.Reads, hread]
  refine ⟨((readUInt_consumes _).map _).mono ?_, fun v e hlayout _ => ?_⟩
  · rintro _ _ ⟨k, ⟨hk, rfl⟩, rfl⟩
    exact .enumeration ht.resolve hk
  · generalize hkind : Typed.kind (OpenEnum α) = kind at hlayout
    cases hlayout with
    | enumeration ht' hk =>
      cases hkind
      cases ht.resolve.symm.trans ht'
      exact (readUInt_accepts hk).map _
    | message hm _ =>
      cases hkind
      cases ht.resolve.symm.trans hm
    | primitive _ | counted _ _ | fixed _ => cases hkind

/-! ### Arrays -/

/-- A repeated reader goes over the layouts of items. -/
theorem ReadsLayout.consumes_times {r : Reader ε Value} (h : ReadsLayout s kind n r) (k : Nat) :
    (r.times k).Consumes fun vs e => vs.length = k ∧ ItemsLayout s kind vs e :=
  (h.consumes.times k).mono fun _ _ hvs => ⟨hvs.1, .of_concat hvs.2⟩

/-- Items are read one by one, each within the bound on the bytes. -/
theorem ReadsLayout.concat {r : Reader ε Value} (h : ReadsLayout s kind n r) {vs : List Value}
    {e : ByteArray} (hsize : e.size < n) : ItemsLayout s kind vs e →
      Concat (fun v e => r.Accepts v e) vs e
  | .nil => .nil
  | .cons hv hvs => by
    rw [ByteArray.size_append] at hsize
    exact .cons (h.accepts hv (by omega)) (h.concat (by omega) hvs)

variable [Typed α]

/-- An array of a fixed length is read as its value is. -/
theorem readArray_reads {r : Reader DecodeError α} (h : Typed.Reads s n r) (k : Nat) :
    Typed.Reads s n (readArray r k) := by
  have hread : Typed.toValue <$> readArray r k = Value.array <$> (Typed.toValue <$> r).times k := by
    rw [times_map, ← toList_readArray, ← comp_map, ← comp_map]
    rfl
  rw [Typed.Reads, hread]
  refine ⟨((h.consumes_times k).map _).mono ?_, fun v e hlayout hsize => ?_⟩
  · rintro _ _ ⟨vs, ⟨rfl, hvs⟩, rfl⟩
    exact .fixed hvs
  · generalize hkind : Typed.kind (Vector α k) = kind at hlayout
    cases hlayout with
    | fixed hvs =>
      cases hkind
      exact (accepts_times (h.concat hsize hvs)).map _
    | primitive _ | counted _ _ | enumeration _ _ | message _ _ => cases hkind

/-- A sequence, whose reader asks for the least size of its elements and whose elements have one
    byte less. -/
theorem readSeq_reads {r : Reader DecodeError α} {k : Nat} (h : Typed.Reads s (n - 1) r)
    (hk : s.minSize (Typed.kind α) = k) (hpos : 0 < k) : Typed.Reads s n (readSeq k r) := by
  have hread : Typed.toValue <$> readSeq k r =
      Value.array <$> (readCount k >>= fun count => (Typed.toValue <$> r).times count) := by
    rw [readSeq, map_bind, map_bind]
    congr 1
    funext count
    rw [times_map, ← comp_map]
    rfl
  rw [Typed.Reads, hread]
  refine ⟨(((readCount_consumes k).bind h.consumes_times).map _).mono ?_,
    fun v e hlayout hsize => ?_⟩
  · rintro _ _ ⟨vs, ⟨_, _, e, ⟨hlen, rfl⟩, ⟨rfl, hvs⟩, rfl⟩, rfl⟩
    exact .counted hlen hvs
  · generalize hkind : Typed.kind (List α) = kind at hlayout
    cases hlayout with
    | counted hlen hvs =>
      cases hkind
      rw [ByteArray.size_append, List.size_toByteArray, leBytes_length] at hsize
      -- The items take at least the bytes that their count claims, so the count is let through.
      have hclaim := hvs.minSize_le (s.messages.length + 1)
      rw [← Schema.minSize, hk, ← Nat.max_eq_left hpos] at hclaim
      refine Accepts.map (fun c c' hspan => ?_) _
      obtain ⟨c₁, h₁, h₂⟩ := hspan.split
      rw [Run.bind_of_ok (readCount_of_spans hlen h₁ h₂ hclaim)]
      exact accepts_times (h.concat (by omega) hvs) h₂
    | primitive _ | fixed _ | enumeration _ _ | message _ _ => cases hkind

/-! ### Messages -/

variable {values : β → List (String × Value)} {front : List (String × Value)}

/-- Behind the last field, the message has the values that were read. -/
theorem readsFields_nil {b : β} (h : values b = front) :
    ReadsFields s values front [] n (pure b : Reader ε β) := by
  refine ⟨((consumes_pure b).map _).mono ?_, fun rest e hlayout _ => ?_⟩
  · rintro _ _ ⟨_, ⟨rfl, rfl⟩, rfl⟩
    exact ⟨[], by rw [h, List.append_nil], .nil⟩
  · cases hlayout
    rw [← h, List.append_nil]
    exact (accepts_pure b).map _

/-- A field is read in front of the others, and its value is put behind those before. -/
theorem readsFields_cons {f : Field} {fields : List Field} {r : Reader DecodeError α}
    {next : α → Reader DecodeError β} (hr : ReadsLayout s f.kind n (Typed.toValue <$> r))
    (hnext : ∀ a, ReadsFields s values (front ++ [(f.name, Typed.toValue a)]) fields n (next a)) :
    ReadsFields s values front (f :: fields) n (r >>= next) := by
  refine ⟨fun c vs c' hc h => ?_, fun vs e hlayout hsize => ?_⟩
  · obtain ⟨b, hb, rfl⟩ := Run.map_eq_ok_iff.1 h
    obtain ⟨a, c₁, ha, hb⟩ := Run.bind_eq_ok_iff.1 hb
    obtain ⟨e₁, h₁, hlayout⟩ := hr.consumes hc (Run.map_of_ok ha _)
    obtain ⟨e₂, h₂, rest, hvs, hrest⟩ := (hnext a).consumes h₁.end_le (Run.map_of_ok hb _)
    refine ⟨e₁ ++ e₂, h₁.append h₂, _, ?_, .cons hlayout hrest⟩
    rw [hvs, List.append_assoc]
    rfl
  · cases hlayout with
    | cons hv hvs =>
      rw [ByteArray.size_append] at hsize
      intro c c' hspan
      obtain ⟨c₁, h₁, h₂⟩ := hspan.split
      -- Of the typed result only the value is known, which is all that the rest hangs on.
      obtain ⟨a, ha, rfl⟩ := Run.map_eq_ok_iff.1 (hr.accepts hv (by omega) h₁)
      have hrest := (hnext a).accepts hvs (by omega) h₂
      rw [List.append_assoc] at hrest
      rw [map_bind, Run.bind_of_ok ha]
      exact hrest

/-- A reader of the fields of a message is one of the message. -/
theorem readsMessage {m : Message} (hm : m ∈ s.messages) {r : Reader ε β}
    (h : ReadsFields s values [] m.fields n r) :
    ReadsLayout s (.named m.name) n ((fun b => Value.message m.name (values b)) <$> r) := by
  have hread : (fun b => Value.message m.name (values b)) <$> r =
      Value.message m.name <$> values <$> r := by
    rw [← comp_map]
    rfl
  rw [hread]
  refine ⟨(h.consumes.map _).mono ?_, fun v e hlayout hsize => ?_⟩
  · rintro _ e ⟨_, ⟨rest, rfl, hrest⟩, rfl⟩
    exact (layout_message_iff hm).2 ⟨_, rfl, hrest⟩
  · obtain ⟨vs, rfl, hvs⟩ := (layout_message_iff hm).1 hlayout
    exact (h.accepts hvs hsize).map _

end

end WireSchema
