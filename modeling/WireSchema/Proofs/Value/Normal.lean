import Mathlib.Data.List.Forall2
import WireSchema.Proofs.Number.Convert
import WireSchema.Proofs.Schema.WellFormed
import WireSchema.Proofs.Value.Write

/-!
# Normal forms of values

The normal form of a value (`Value.norm`) is what is left of it on the wire: fields that the schema
does not declare are gone, and integers have the tag of their kind. A value that has exactly the
declared fields, with the tags of their kinds, equals its normal form (`Value.same_norm_of_exact`).

Equality of values (`Value.same`) compares floating-point numbers as numbers, so that it is not
reflexive: a value that holds a NaN differs from itself.
-/

namespace WireSchema

open WireSchema.Number

/-- An integer as a value of a type. -/
def IntType.tag (t : IntType) (n : Int) : Value :=
  if t.signed then .int (Int64.ofInt n) else .uint (UInt64.ofNat n.toNat)

namespace Value

/-! ## Normal forms -/

/-- The integer of a value, whatever its tag. -/
def integer? : Value → Option Int
  | uint n => some n.toNat
  | int n => some n.toInt
  | _ => none

/-- The declared fields of a message, each by its normal form. -/
def normFields (norms : List (String × (Kind → Value))) (fields : List Field) :
    List (String × Value) :=
  fields.filterMap fun f => (norms.lookup f.name).map fun norm => (f.name, norm f.kind)

mutual

/-- The normal form of a value of a kind. -/
def norm (s : Schema) (v : Value) (kind : Kind) : Value :=
  match kind with
  | .primitive (.int t) => (v.integer?.map t.tag).getD v
  | .array element _ =>
    match v with
    | array items => array (normItems s items element)
    | _ => v
  | .named name =>
    match s.resolve? name with
    | some (.message m) =>
      match v with
      | message type fields => message type (normFields (fieldNorms s fields) m.fields)
      | _ => v
    | _ => v
  | _ => v
termination_by structural v

/-- The normal forms of the items of an array. -/
def normItems (s : Schema) (items : List Value) (element : Kind) : List Value :=
  match items with
  | [] => []
  | v :: rest => v.norm s element :: normItems s rest element
termination_by structural items

/-- The normal forms of fields by name. -/
def fieldNorms (s : Schema) (fields : List (String × Value)) : List (String × (Kind → Value)) :=
  match fields with
  | [] => []
  | (name, v) :: rest => (name, v.norm s) :: fieldNorms s rest
termination_by structural fields

end

/-- The normal form of a field is that of its value. -/
theorem lookup_fieldNorms (s : Schema) (fields : List (String × Value)) (name : String) :
    (fieldNorms s fields).lookup name = (fields.lookup name).map fun v => v.norm s := by
  have heq : fieldNorms s fields = fields.map fun p => (p.1, p.2.norm s) := by
    induction fields with
    | nil => rfl
    | cons p fields ih =>
      rw [fieldNorms, ih]
      rfl
  rw [heq, lookup_map_snd fun v : Value => v.norm s]

mutual

/-- Is there a NaN somewhere in the value? -/
def holdsNaN : Value → Bool
  | float x => x.isNaN
  | array items => anyHoldsNaN items
  | message _ fields => fieldsHoldNaN fields
  | _ => false

/-- Is there a NaN in one of the items? -/
def anyHoldsNaN : List Value → Bool
  | [] => false
  | v :: rest => v.holdsNaN || anyHoldsNaN rest

/-- Is there a NaN in one of the fields? -/
def fieldsHoldNaN : List (String × Value) → Bool
  | [] => false
  | (_, v) :: rest => v.holdsNaN || fieldsHoldNaN rest

end

/-- The parts of a value without NaNs have none. -/
theorem holdsNaN_eq_false_of_part {v w : Value} (hw : w.Part v) (h : v.holdsNaN = false) :
    w.holdsNaN = false := by
  cases hw with
  | item hmem =>
    rw [holdsNaN] at h
    induction hmem with
    | head => exact (Bool.or_eq_false_iff.1 h).1
    | tail _ _ ih => exact ih (Bool.or_eq_false_iff.1 h).2
  | field hmem =>
    rw [holdsNaN] at h
    induction hmem with
    | head => exact (Bool.or_eq_false_iff.1 h).1
    | tail _ _ ih => exact ih (Bool.or_eq_false_iff.1 h).2

/-- The value has the tags of its kind, and its messages have exactly the declared fields. -/
inductive Exact (s : Schema) : Kind → Value → Prop
  | uint {t : IntType} (n : UInt64) (h : t.signed = false) :
      Exact s (.primitive (.int t)) (.uint n)
  | int {t : IntType} (n : Int64) (h : t.signed = true) : Exact s (.primitive (.int t)) (.int n)
  | single (x : Double) : Exact s (.primitive .single) (.float x)
  | double (x : Double) : Exact s (.primitive .double) (.float x)
  | bool (b : Bool) : Exact s (.primitive .bool) (.bool b)
  | string (t : String) : Exact s (.primitive .string) (.string t)
  | array {element : Kind} {len : ArrayLen} {items : List Value}
      (h : ∀ v ∈ items, Exact s element v) : Exact s (.array element len) (.array items)
  | enumeration {name : String} {t : Enumeration} (type : String) (n : UInt64)
      (ht : s.resolve? name = some (.enumeration t)) :
      Exact s (.named name) (.enumeration type n)
  | message {name : String} {m : Message} {fields : List (String × Value)} (type : String)
      (hm : s.resolve? name = some (.message m))
      (hkeys : (fields.map Prod.fst).Perm (m.fields.map Field.name))
      (h : ∀ f ∈ m.fields, ∀ v, fields.lookup f.name = some v → Exact s f.kind v) :
      Exact s (.named name) (.message type fields)

/-! ## Equality -/

theorem same_tag (t : IntType) (n : Int) : (t.tag n).same (t.tag n) = true := by
  rw [IntType.tag]
  split <;> simp [same]

/-- A number is the same as itself unless it is a NaN. -/
theorem same_float {x : Double} (h : (float x).holdsNaN = false) :
    (float x).same (float x) = true := by
  rw [same]
  exact Double.same_self h

/-- Fields are the same if they have the same names and values one by one. -/
theorem sameFields_of_forall₂ {fs gs others : List (String × Value)}
    (h : List.Forall₂ (fun p q => p.1 = q.1 ∧ p.2.same q.2 = true) fs gs)
    (hothers : ∀ q ∈ gs, others.lookup q.1 = some q.2) : sameFields fs others = true := by
  induction h with
  | nil => rfl
  | cons hpq _ ih =>
    obtain ⟨hq, hgs⟩ := List.forall_mem_cons.1 hothers
    rw [sameFields, hpq.1, hq, ih hgs, Bool.and_true]
    exact hpq.2

/-- Messages are equal if their fields are, one by one, and have distinct names. -/
theorem same_message_of_forall₂ {name : String} {fs gs : List (String × Value)}
    (h : List.Forall₂ (fun p q => p.1 = q.1 ∧ p.2.same q.2 = true) fs gs)
    (hnodup : (fs.map Prod.fst).Nodup) : (message name fs).same (message name gs) = true := by
  have hkeys : fs.map Prod.fst = gs.map Prod.fst := by
    induction h with
    | nil => rfl
    | cons hpq _ ih =>
      rw [List.map_cons, List.map_cons, hpq.1, ih (List.nodup_cons.1 hnodup).2]
  rw [hkeys] at hnodup
  rw [same, h.length_eq, sameFields_of_forall₂ h fun q hq => lookup_of_mem hnodup hq]
  simp

variable {s : Schema}

/-! ## Values in normal form -/

/-- Items are the same as their normal forms one by one. -/
theorem sameItems_normItems {element : Kind} {items : List Value}
    (h : ∀ v ∈ items, (v.norm s element).same v = true) :
    sameItems (normItems s items element) items = true := by
  induction items with
  | nil => rfl
  | cons v items ih =>
    obtain ⟨hv, hitems⟩ := List.forall_mem_cons.1 h
    rw [normItems, sameItems, hv, ih hitems]
    rfl

/-- All declared fields are in the normal form, and they are the same. -/
theorem sameFields_normFields {values : List (String × Value)} {fields : List Field}
    (h : ∀ f ∈ fields, ∃ v, values.lookup f.name = some v ∧ (v.norm s f.kind).same v = true) :
    (normFields (fieldNorms s values) fields).length = fields.length ∧
      sameFields (normFields (fieldNorms s values) fields) values = true := by
  induction fields with
  | nil => exact ⟨rfl, rfl⟩
  | cons f fields ih =>
    obtain ⟨⟨v, hv, hsame⟩, hfields⟩ := List.forall_mem_cons.1 h
    obtain ⟨hlen, hsames⟩ := ih hfields
    have hcons : normFields (fieldNorms s values) (f :: fields) =
        (f.name, v.norm s f.kind) :: normFields (fieldNorms s values) fields := by
      rw [normFields, List.filterMap_cons, lookup_fieldNorms, hv]
      rfl
    rw [hcons, List.length_cons, List.length_cons, hlen, sameFields, hv, hsames, Bool.and_true]
    exact ⟨rfl, hsame⟩

/-- A value that has the declared fields and tags equals its normal form. -/
theorem same_norm_of_exact {kind : Kind} {v : Value} (h : Exact s kind v)
    (hnan : v.holdsNaN = false) : (v.norm s kind).same v = true := by
  induction h with
  | uint n hsigned => simp [norm, integer?, IntType.tag, hsigned, same]
  | int n hsigned => simp [norm, integer?, IntType.tag, hsigned, same]
  | single x => exact same_float hnan
  | double x => exact same_float hnan
  | bool b => simp [norm, same]
  | string t => simp [norm, same]
  | array h ih =>
    rw [norm, same]
    exact sameItems_normItems fun v hv => ih v hv (holdsNaN_eq_false_of_part (.item hv) hnan)
  | enumeration type n ht =>
    rw [norm, ht]
    simp [same]
  | message type hm hkeys h ih =>
    rename_i name m fields
    have hfields : ∀ f ∈ m.fields, ∃ v, fields.lookup f.name = some v ∧
        (v.norm s f.kind).same v = true := by
      intro f hf
      -- The names are those of the declaration in some order, so the field is there.
      have hkey : f.name ∈ fields.map Prod.fst := hkeys.mem_iff.2 (List.mem_map_of_mem hf)
      cases hv : fields.lookup f.name with
      | none => exact absurd hkey (lookup_eq_none_iff_notMem.1 hv)
      | some v =>
        exact ⟨v, rfl, ih f hf v hv
          (holdsNaN_eq_false_of_part (.field (mem_of_lookup_eq_some hv)) hnan)⟩
    obtain ⟨hlen, hsames⟩ := sameFields_normFields hfields
    have hlens := hkeys.length_eq
    rw [List.length_map, List.length_map] at hlens
    rw [norm, hm, same, hlen, hlens, hsames]
    simp

end Value

end WireSchema
