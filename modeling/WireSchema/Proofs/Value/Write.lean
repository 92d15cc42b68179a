import WireSchema.Proofs.Wire.Writer
import WireSchema.Value.Encode

/-!
# What the writers of values append

Values are written part by part, so proofs about writers go by induction over the parts of a value
(`Value.induction`). All writers append, and what they do to bytes written before is nothing
(`Value.write_appends`).
-/

namespace WireSchema

open Writer WireSchema.Number

/-! ## Look-up -/

section

variable {α β γ : Type} [BEq α]

/-- A function of the values may be applied before or after looking up. -/
theorem lookup_map_snd (g : β → γ) (l : List (α × β)) (k : α) :
    (l.map fun p => (p.1, g p.2)).lookup k = (l.lookup k).map g := by
  induction l with
  | nil => rfl
  | cons p l ih =>
    rw [List.map_cons, List.lookup_cons, List.lookup_cons, ih]
    cases k == p.1 <;> rfl

variable [LawfulBEq α]

/-- What is found is one of the entries. -/
theorem mem_of_lookup_eq_some {l : List (α × β)} {k : α} {b : β} (h : l.lookup k = some b) :
    (k, b) ∈ l := by
  obtain ⟨l₁, l₂, rfl, -⟩ := List.lookup_eq_some_iff.1 h
  exact List.mem_append_right _ List.mem_cons_self

/-- With distinct keys, every entry is found. -/
theorem lookup_of_mem {l : List (α × β)} (hnodup : (l.map Prod.fst).Nodup) {p : α × β}
    (hp : p ∈ l) : l.lookup p.1 = some p.2 := by
  obtain ⟨l₁, l₂, rfl⟩ := List.append_of_mem hp
  refine List.lookup_eq_some_iff.2 ⟨l₁, l₂, rfl, fun q hq => bne_iff_ne.2 fun heq => ?_⟩
  rw [List.map_append, List.nodup_append] at hnodup
  exact hnodup.2.2 q.1 (List.mem_map_of_mem hq) p.1 (by simp) heq.symm

end

namespace Value

/-! ## Parts of a value -/

/-- A value is an item or a field of another. -/
inductive Part : Value → Value → Prop
  | item {w : Value} {items : List Value} (h : w ∈ items) : Part w (.array items)
  | field {w : Value} {name key : String} {fields : List (String × Value)}
      (h : (key, w) ∈ fields) : Part w (.message name fields)

/-- A part is smaller than the whole, so an induction may follow parts. -/
theorem Part.sizeOf_lt {v w : Value} (h : w.Part v) : sizeOf w < sizeOf v := by
  cases h with
  | item h =>
    have := List.sizeOf_lt_of_mem h
    simp
    omega
  | field h =>
    have := List.sizeOf_lt_of_mem h
    simp at this ⊢
    omega

/-- What holds of a value whenever it holds of its parts holds of all values. -/
theorem induction {P : Value → Prop} (step : ∀ v, (∀ w, w.Part v → P w) → P v) (v : Value) : P v :=
  step v fun w _ => induction step w
termination_by sizeOf v
decreasing_by exact Part.sizeOf_lt ‹_›

/-! ## Writers -/

variable {s : Schema}

/-- Writing an integer only adds bytes. -/
theorem writeInteger_appends (t : IntType) (v : Value) : (v.writeInteger t).Appends := by
  unfold writeInteger
  split
  · exact (writeUInt_appends _ _).mapError _
  · split
    · exact appends_throw _
    · exact (writeUInt_appends _ _).mapError _
  · exact (writeInt_appends _ _).mapError _
  · split
    · exact appends_throw _
    · exact (writeInt_appends _ _).mapError _
  · exact appends_throw _

theorem writePrimitive_appends (p : Primitive) (v : Value) : (v.writePrimitive p).Appends := by
  unfold writePrimitive
  split
  · exact writeInteger_appends _ _
  · rw [writeNarrow]
    split
    · exact (writeBytes_writes _).appends
    · exact appends_throw _
  · exact (writeBytes_writes _).appends
  · exact (writeBytes_writes _).appends
  · exact (writeString_appends _).mapError _
  · exact appends_throw _

theorem writeEnum_appends (t : Enumeration) (v : Value) : (v.writeEnum t).Appends := by
  unfold writeEnum
  split
  · split
    · exact (writeUInt_appends _ _).mapError _
    · exact appends_throw _
  · exact appends_throw _

/-- Writing a length only adds bytes. -/
theorem writeArrayLen_appends (len : ArrayLen) (n : Nat) : (writeArrayLen len n).Appends := by
  unfold writeArrayLen
  split
  · exact writeLen_appends n
  · split
    · exact appends_pure
    · exact appends_throw _

/-- Writing items only adds bytes if writing each of them does. -/
theorem writeItems_appends {element : Kind} {items : List Value}
    (h : ∀ v ∈ items, (v.write s element).Appends) : (writeItems s items element).Appends := by
  induction items with
  | nil => exact appends_pure
  | cons v items ih =>
    obtain ⟨hv, hitems⟩ := List.forall_mem_cons.1 h
    exact hv.bind (ih hitems)

theorem fieldWriters_eq (s : Schema) (fields : List (String × Value)) :
    fieldWriters s fields = fields.map fun p => (p.1, p.2.write s) := by
  induction fields with
  | nil => rfl
  | cons p fields ih =>
    rw [fieldWriters, ih]
    rfl

/-- Under its name a field is found with its writer. -/
theorem lookup_fieldWriters (s : Schema) (fields : List (String × Value)) (name : String) :
    (fieldWriters s fields).lookup name = (fields.lookup name).map fun v => v.write s := by
  rw [fieldWriters_eq, lookup_map_snd fun v : Value => v.write s]

/-- Writing fields only adds bytes if writing their values does. -/
theorem writeFields_appends {m : Message} {values : List (String × Value)}
    (h : ∀ p ∈ values, ∀ kind, (p.2.write s kind).Appends) (fields : List Field) :
    (writeFields m (fieldWriters s values) fields).Appends := by
  induction fields with
  | nil => exact appends_pure
  | cons f fields ih =>
    rw [writeFields, lookup_fieldWriters]
    cases hv : values.lookup f.name with
    | none => exact (appends_throw _).bind ih
    | some v => exact (h _ (mem_of_lookup_eq_some hv) _).bind ih

/-- What is written of a value, and whether it can be, hangs on nothing written before. -/
theorem write_appends (s : Schema) (v : Value) (kind : Kind) : (v.write s kind).Appends := by
  induction v using Value.induction generalizing kind with
  | step v ih =>
    unfold write
    split
    · exact v.writePrimitive_appends _
    · split
      · exact ((writeArrayLen_appends _ _).mapError _).bind
          (writeItems_appends fun w hw => ih w (.item hw) _)
      · exact appends_throw _
    · split
      · exact writeEnum_appends _ v
      · split
        · split
          · exact writeFields_appends (fun p hp => ih p.2 (.field hp)) _
          · exact appends_throw _
        · exact appends_throw _
      · exact appends_throw _
    · exact appends_throw _

end Value

end WireSchema
