import WireSchema.Proofs.Value.Canonical
import WireSchema.Proofs.Value.Typed

/-!
# Writers of typed values

The writer of a type and the writer of the dynamic value do the same (`Typed.WritesLike`): they
append the same bytes, or fail with the same error. As for readers, this is put together from the
parts. Numbers of fixed types cannot fail. They are written in their form, and dynamic values in
that form are written as it (`Layout.writes`). Lengths, texts and enums can fail, and then both
writers run the same checks in the same order.
-/

namespace WireSchema

open Writer WireSchema.Number

variable {α : Type} [Typed α] {s : Schema}

/-- The writer does what the writer of the dynamic value does. -/
def Typed.WritesLike (s : Schema) (a : α) (w : Writer EncodeError Unit) : Prop :=
  Alike ValueError.encode w ((toValue a).write s (kind α))

/-! ## Primitives -/

/-- Bytes that a reader accepts are written by the dynamic writer too. -/
theorem Typed.writesLike_of_accepts {r : Reader DecodeError α} (hr : Typed.Reads s 0 r) {a : α}
    {e : ByteArray} (ha : r.Accepts a e) (hnan : ¬(toValue a).SingleNaN s (kind α))
    {w : Writer EncodeError Unit} (hw : w.Writes e) : Typed.WritesLike s a w :=
  .ok e hw ((hr.consumes.of_accepts (ha.map _)).writes hnan)

theorem writeU8_like (v : UInt8) : Typed.WritesLike s v (writeU8 v) :=
  Typed.writesLike_of_accepts readU8_reads (readU8_accepts v) nofun (writeBytes_writes _)

theorem writeU16_like (v : UInt16) : Typed.WritesLike s v (writeU16 v) :=
  Typed.writesLike_of_accepts readU16_reads (readU16_accepts v) nofun (writeBytes_writes _)

theorem writeU32_like (v : UInt32) : Typed.WritesLike s v (writeU32 v) :=
  Typed.writesLike_of_accepts readU32_reads (readU32_accepts v) nofun (writeBytes_writes _)

theorem writeU64_like (v : UInt64) : Typed.WritesLike s v (writeU64 v) :=
  Typed.writesLike_of_accepts readU64_reads (readU64_accepts v) nofun (writeBytes_writes _)

theorem writeI8_like (v : Int8) : Typed.WritesLike s v (writeI8 v) :=
  Typed.writesLike_of_accepts readI8_reads (readI8_accepts v) nofun (writeBytes_writes _)

theorem writeI16_like (v : Int16) : Typed.WritesLike s v (writeI16 v) :=
  Typed.writesLike_of_accepts readI16_reads (readI16_accepts v) nofun (writeBytes_writes _)

theorem writeI32_like (v : Int32) : Typed.WritesLike s v (writeI32 v) :=
  Typed.writesLike_of_accepts readI32_reads (readI32_accepts v) nofun (writeBytes_writes _)

theorem writeI64_like (v : Int64) : Typed.WritesLike s v (writeI64 v) :=
  Typed.writesLike_of_accepts readI64_reads (readI64_accepts v) nofun (writeBytes_writes _)

/-- A NaN might be made quiet by the dynamic writer. -/
theorem writeSingle_like {x : Single} (h : x.isNaN = false) :
    Typed.WritesLike s x (writeSingle x) := by
  refine Typed.writesLike_of_accepts readSingle_reads (readSingle_accepts x) ?_
    (writeBytes_writes _)
  intro hnan
  cases hnan with
  | single hx => rw [Single.isNaN_widen_eq, h] at hx; cases hx

theorem writeDouble_like (x : Double) : Typed.WritesLike s x (writeDouble x) :=
  Typed.writesLike_of_accepts readDouble_reads (readDouble_accepts x) nofun (writeBytes_writes _)

theorem writeBool_like (b : Bool) : Typed.WritesLike s b (writeBool b) := by
  refine Typed.writesLike_of_accepts readBool_reads (readBool_accepts b) nofun ?_
  cases b <;> exact writeBytes_writes _

theorem writeString_like (t : String) : Typed.WritesLike s t (writeString t) :=
  (writeString_appends t).alike_mapError _

/-- An enum is written as its value is. -/
theorem OpenEnum.write_like {β : Type} [WireEnum β] {t : Enumeration}
    (ht : WireEnum.Declared s β t) (v : OpenEnum β) : Typed.WritesLike s v v.write := by
  have hwrite : (Typed.toValue v).write s (Typed.kind (OpenEnum β)) =
      (writeUInt t.wireWidth v.raw.toNat).mapError .encode := by
    change Value.write s (.enumeration (WireEnum.name β) v.raw) (.named (WireEnum.name β)) = _
    rw [Value.write, ht.resolve]
    change Value.writeEnum t _ = _
    rw [Value.writeEnum, if_pos (beq_iff_eq.2 ht.name_eq.symm)]
  rw [Typed.WritesLike, hwrite, ht.width_eq]
  exact (writeUInt_appends _ _).alike_mapError _

/-! ## Arrays -/

variable {write : α → Writer EncodeError Unit}

/-- Items are written as their values are, one by one. -/
theorem writeAll_alike {as : List α} (h : ∀ a ∈ as, Typed.WritesLike s a (write a)) :
    Alike ValueError.encode (writeAll write as)
      (Value.writeItems s (as.map Typed.toValue) (Typed.kind α)) := by
  induction as with
  | nil => exact .ok .empty writes_pure writes_pure
  | cons a as ih =>
    obtain ⟨ha, has⟩ := List.forall_mem_cons.1 h
    exact ha.bind (ih has)

/-- A sequence is written as its value is, with its count in front. -/
theorem writeSeq_like {as : List α} (h : ∀ a ∈ as, Typed.WritesLike s a (write a)) :
    Typed.WritesLike s as (writeSeq write as) := by
  change Alike _ _ (Value.write s (.array (as.map Typed.toValue)) (.array (Typed.kind α) .counted))
  rw [Value.write, Value.writeArrayLen, List.length_map]
  exact ((writeLen_appends _).alike_mapError _).bind (writeAll_alike h)

/-- The length of a vector is the one that the kind asks for. -/
theorem writeAll_toList_like {n : Nat} {as : Vector α n}
    (h : ∀ a ∈ as.toList, Typed.WritesLike s a (write a)) :
    Typed.WritesLike s as (writeAll write as.toList) := by
  change Alike _ _
    (Value.write s (.array (as.toList.map Typed.toValue)) (.array (Typed.kind α) (.fixed n)))
  rw [Value.write, Value.writeArrayLen, List.length_map, Vector.length_toList, if_pos rfl,
    ← pure_bind () fun _ => writeAll write as.toList]
  exact (appends_pure.alike_mapError _).bind (writeAll_alike h)

/-! ## Messages -/

/-- The writer appends the values of fields like the dynamic writer of any message that holds
    them. -/
structure WritesFields (s : Schema) (fields : List Field) (values : List (String × Value))
    (w : Writer EncodeError Unit) : Prop where
  keys_eq : values.map Prod.fst = fields.map Field.name
  alike : ∀ (m : Message) (all : List (String × Value)),
    (∀ p ∈ values, all.lookup p.1 = some p.2) →
      Alike ValueError.encode w (Value.writeFields m (Value.fieldWriters s all) fields)

theorem writesFields_nil : WritesFields s [] [] (pure ()) :=
  ⟨rfl, fun _ _ _ => .ok .empty writes_pure writes_pure⟩

/-- A field is written in front of the others, under its name. -/
theorem writesFields_cons {f : Field} {fields : List Field} {values : List (String × Value)}
    {a : α} {w w' : Writer EncodeError Unit}
    (h : Alike ValueError.encode w ((Typed.toValue a).write s f.kind))
    (h' : WritesFields s fields values w') :
    WritesFields s (f :: fields) ((f.name, Typed.toValue a) :: values) (do w; w') := by
  refine ⟨congrArg (f.name :: ·) h'.keys_eq, fun m all hall => ?_⟩
  obtain ⟨hlookup, hrest⟩ := List.forall_mem_cons.1 hall
  rw [Value.writeFields, Value.lookup_fieldWriters, hlookup]
  exact h.bind (h'.alike m all hrest)

/-- The last field of a message needs nothing behind it. -/
theorem writesFields_last {f : Field} {a : α} {w : Writer EncodeError Unit}
    (h : Alike ValueError.encode w ((Typed.toValue a).write s f.kind)) :
    WritesFields s [f] [(f.name, Typed.toValue a)] w := by
  have hcons := writesFields_cons h writesFields_nil
  rwa [show (do w; pure ()) = w from bind_pure w] at hcons

/-- A message is written like its dynamic value if its fields are. -/
theorem writesMessage {m : Message} (hm : m ∈ s.messages) {values : List (String × Value)}
    {w : Writer EncodeError Unit} (h : WritesFields s m.fields values w) :
    Alike ValueError.encode w ((Value.message m.name values).write s (.named m.name)) := by
  have hnodup := Schema.nodup_fields hm
  rw [← h.keys_eq] at hnodup
  rw [Value.write, Schema.resolve?_of_mem hm]
  change Alike _ _ (if m.name == m.name then _ else _)
  rw [if_pos (beq_self_eq_true _)]
  exact h.alike m values fun p hp => lookup_of_mem hnodup hp

/-- The bytes of a message are those of its dynamic value. -/
theorem encode_of_alike {m : Message} (hm : m ∈ s.messages) {values : List (String × Value)}
    {w : Writer EncodeError Unit}
    (h : Alike ValueError.encode w ((Value.message m.name values).write s (.named m.name))) :
    (Value.message m.name values).encode s = w.toBytes.mapError .encode := by
  rw [Value.encode, Schema.message?_of_mem hm]
  exact h.toBytes_eq

end WireSchema
