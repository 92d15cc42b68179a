import Mathlib.Data.List.Perm.Basic
import Mathlib.Data.String.Basic
import WireSchema.Proofs.Schema.Resolve
import WireSchema.Proofs.Value.Write
import WireSchema.Value.Render

/-!
# What the JSON of a value shows

`Value.Shows s rule v j` says that the tree `j` shows the value `v`: truth values, numbers and texts
as they are, an enum by the name of its member or else by its integer, arrays item by item, and
messages as objects whose keys follow a given rule. The rendering of a value is such a tree, with
the keys of `shownKeys`: the declared ones that are there, in the order of their declaration, and
then the others in ascending order.
-/

namespace WireSchema

open WireSchema.Number

/-- Is the number finite? -/
def Number.Double.isFinite (x : Double) : Bool :=
  match x.unpack with
  | .finite _ _ _ => true
  | _ => false

/-! ## Names in order -/

/-- Sorting keeps the names. -/
theorem sortNames_perm (names : List String) : (sortNames names).Perm names :=
  List.mergeSort_perm _ _

theorem sortNames_ascending (names : List String) : (sortNames names).Pairwise (· ≤ ·) := by
  have hsorted : (sortNames names).Pairwise fun a b => decide (a ≤ b) = true := by
    refine List.pairwise_mergeSort (fun a b c hab hbc => ?_) (fun a b => ?_) names
    · exact decide_eq_true (le_trans (of_decide_eq_true hab) (of_decide_eq_true hbc))
    · rw [Bool.or_eq_true, decide_eq_true_iff, decide_eq_true_iff]
      exact le_total a b
  exact hsorted.imp of_decide_eq_true

/-- The order that names come in makes no difference to the order they are sorted into. -/
theorem sortNames_of_perm {names names' : List String} (h : names.Perm names') :
    sortNames names = sortNames names' :=
  List.Perm.eq_of_pairwise (fun _ _ _ _ => le_antisymm) (sortNames_ascending _)
    (sortNames_ascending _) ((sortNames_perm _).trans (h.trans (sortNames_perm _).symm))

/-- Sorted names without repetition ascend strictly. -/
theorem sortNames_strict {names : List String} (h : names.Nodup) :
    (sortNames names).Pairwise (· < ·) := by
  have hnodup : (sortNames names).Pairwise (· ≠ ·) := (sortNames_perm names).nodup_iff.2 h
  exact ((sortNames_ascending names).and hnodup).imp fun hab => lt_of_le_of_ne hab.1 hab.2

/-! ## Picking entries -/

section

variable {α : Type} {entries entries' : List (String × α)} {names : List String}

/-- What is picked has one of the names and is found under it. -/
theorem mem_pick {p : String × α} :
    p ∈ pick entries names ↔ p.1 ∈ names ∧ entries.lookup p.1 = some p.2 := by
  rw [pick, List.mem_filterMap]
  refine ⟨?_, fun ⟨hname, hlookup⟩ => ⟨p.1, hname, by rw [hlookup]; rfl⟩⟩
  rintro ⟨name, hname, hp⟩
  obtain ⟨a, ha, rfl⟩ := Option.map_eq_some_iff.1 hp
  exact ⟨hname, ha⟩

/-- Entries are picked by look-up alone. -/
theorem pick_congr (h : ∀ key, entries.lookup key = entries'.lookup key) :
    pick entries names = pick entries' names := by
  rw [pick, pick]
  congr 1
  funext name
  rw [h]

/-- The names that are picked are those that are there, in the order asked for. -/
theorem map_fst_pick :
    (pick entries names).map Prod.fst = names.filter (entries.map Prod.fst).contains := by
  induction names with
  | nil => rfl
  | cons name names ih =>
    rw [pick, List.filterMap_cons, List.filter_cons]
    cases hlookup : entries.lookup name with
    | none =>
      have hname := lookup_eq_none_iff_notMem.1 hlookup
      rw [if_neg (by simpa using hname)]
      exact ih
    | some a =>
      have hname : name ∈ entries.map Prod.fst :=
        List.mem_map_of_mem (mem_of_lookup_eq_some hlookup)
      rw [if_pos (by simpa using hname)]
      exact congrArg (name :: ·) ih

/-- With distinct keys, picking all entries in their order changes nothing. -/
theorem pick_self (h : (entries.map Prod.fst).Nodup) :
    pick entries (entries.map Prod.fst) = entries := by
  rw [pick, List.filterMap_map]
  refine (List.filterMap_congr fun p hp => ?_).trans List.filterMap_some
  rw [Function.comp_apply, lookup_of_mem h hp]
  rfl

end

namespace Value

/-! ## Parts of renderings -/

variable {s : Schema}

/-- Items are rendered one by one. -/
theorem itemsToJson_eq (s : Schema) (items : List Value) :
    itemsToJson s items = items.map (toJson s) := by
  induction items with
  | nil => rfl
  | cons v items ih => rw [itemsToJson, ih, List.map_cons]

/-- Fields are rendered one by one. -/
theorem fieldsToJson_eq (s : Schema) (fields : List (String × Value)) :
    fieldsToJson s fields = fields.map fun p => (p.1, p.2.toJson s) := by
  induction fields with
  | nil => rfl
  | cons p fields ih =>
    rw [fieldsToJson, ih]
    rfl

theorem map_fst_fieldsToJson (s : Schema) (fields : List (String × Value)) :
    (fieldsToJson s fields).map Prod.fst = fields.map Prod.fst := by
  rw [fieldsToJson_eq, List.map_map]
  rfl

/-- Under its name a field is found rendered. -/
theorem lookup_fieldsToJson (s : Schema) (fields : List (String × Value)) (key : String) :
    (fieldsToJson s fields).lookup key = (fields.lookup key).map (toJson s) := by
  rw [fieldsToJson_eq, lookup_map_snd (toJson s)]

/-- A message is rendered as an object with its fields in the order of keys. -/
theorem toJson_message (s : Schema) (name : String) (fields : List (String × Value)) :
    (message name fields).toJson s =
      .object (pick (fieldsToJson s fields) (jsonOrder s name (fields.map Prod.fst))) := by
  rw [toJson]
  exact congrArg (fun keys => Json.object (pick _ (jsonOrder s name keys)))
    (map_fst_fieldsToJson s fields)

theorem itemsToText_eq (items : List Value) : itemsToText items = items.map toText := by
  induction items with
  | nil => rfl
  | cons v items ih => rw [itemsToText, ih, List.map_cons]

theorem fieldsToText_eq (fields : List (String × Value)) :
    fieldsToText fields = fields.map fun p => (p.1, p.2.toText) := by
  induction fields with
  | nil => rfl
  | cons p fields ih =>
    rw [fieldsToText, ih]
    rfl

theorem map_fst_fieldsToText (fields : List (String × Value)) :
    (fieldsToText fields).map Prod.fst = fields.map Prod.fst := by
  rw [fieldsToText_eq, List.map_map]
  rfl

theorem lookup_fieldsToText (fields : List (String × Value)) (key : String) :
    (fieldsToText fields).lookup key = (fields.lookup key).map toText := by
  rw [fieldsToText_eq, lookup_map_snd toText]

/-! ## Keys -/

/-- A name is declared once. -/
theorem nodup_declaredNames (s : Schema) (name : String) : (declaredNames s name).Nodup := by
  rw [declaredNames]
  cases hm : s.message? name with
  | none => exact List.nodup_nil
  | some m => exact Schema.nodup_fields (Schema.message?_eq_some hm).1

/-- The keys of a message that are not declared. -/
def extraKeys (s : Schema) (name : String) (keys : List String) : List String :=
  keys.filter fun k => !(declaredNames s name).contains k

/-- The other keys are those that are not declared. -/
theorem mem_extraKeys {name key : String} {keys : List String} :
    key ∈ extraKeys s name keys ↔ key ∈ keys ∧ key ∉ declaredNames s name := by
  simp [extraKeys]

/-- The keys of a message in the order in which JSON shows them. -/
def shownKeys (s : Schema) (name : String) (keys : List String) : List String :=
  (declaredNames s name).filter keys.contains ++ sortNames (extraKeys s name keys)

/-- The keys of an object are the shown ones. -/
theorem map_fst_pick_jsonOrder (s : Schema) (name : String) (fields : List (String × Value)) :
    (pick (fieldsToJson s fields) (jsonOrder s name (fields.map Prod.fst))).map Prod.fst =
      shownKeys s name (fields.map Prod.fst) := by
  rw [map_fst_pick, map_fst_fieldsToJson, jsonOrder, List.filter_append, shownKeys]
  refine congrArg _ (List.filter_eq_self.2 fun key hkey => ?_)
  have hextra : key ∈ extraKeys s name (fields.map Prod.fst) := (sortNames_perm _).mem_iff.1 hkey
  simpa using (mem_extraKeys.1 hextra).1

/-- No key is lost and none is repeated. -/
theorem shownKeys_perm {name : String} {keys : List String} (h : keys.Nodup) :
    (shownKeys s name keys).Perm keys := by
  have hsorted := sortNames_perm (extraKeys s name keys)
  have hnodup : (shownKeys s name keys).Nodup := by
    refine List.nodup_append.2 ⟨(nodup_declaredNames s name).filter _,
      hsorted.nodup_iff.2 (h.filter _), ?_⟩
    rintro a ha _ hb rfl
    exact (mem_extraKeys.1 (hsorted.mem_iff.1 hb)).2 (List.mem_filter.1 ha).1
  refine (List.perm_ext_iff_of_nodup hnodup h).2 fun key => ?_
  rw [shownKeys, List.mem_append, hsorted.mem_iff, mem_extraKeys, List.mem_filter]
  -- A key of the message is shown in front if it is declared and behind otherwise.
  by_cases hkey : key ∈ declaredNames s name <;> simp [hkey]

/-- The keys of an object are those of the message, none lost and none repeated: the declared ones
    in the order of their declaration, and behind them the others in ascending order. -/
structure Arranged (s : Schema) (name : String) (keys shown : List String) : Prop where
  perm : shown.Perm keys
  nodup : shown.Nodup
  declared_first : ∃ extra, shown = (declaredNames s name).filter keys.contains ++ extra ∧
    extra.Pairwise (· < ·) ∧ ∀ key ∈ extra, key ∉ declaredNames s name

/-- The shown keys are the keys of the message, arranged. -/
theorem arranged_shownKeys {name : String} {keys : List String} (h : keys.Nodup) :
    Arranged s name keys (shownKeys s name keys) where
  perm := shownKeys_perm h
  nodup := (shownKeys_perm h).nodup_iff.2 h
  declared_first := ⟨sortNames (extraKeys s name keys), rfl, sortNames_strict (h.filter _),
    fun _ hkey => (mem_extraKeys.1 ((sortNames_perm _).mem_iff.1 hkey)).2⟩

theorem extraKeys_declaredNames (s : Schema) (name : String) :
    extraKeys s name (declaredNames s name) = [] :=
  List.eq_nil_iff_forall_not_mem.2 fun _ hkey => (mem_extraKeys.1 hkey).2 (mem_extraKeys.1 hkey).1

/-- Where the keys are the declared ones, they are shown as they are declared. -/
theorem shownKeys_declaredNames (s : Schema) (name : String) :
    shownKeys s name (declaredNames s name) = declaredNames s name := by
  rw [shownKeys, extraKeys_declaredNames, sortNames, List.mergeSort_nil, List.append_nil]
  exact List.filter_eq_self.2 (by simp)

/-- The declared names stand in the order of their declaration. -/
theorem jsonOrder_declaredNames (s : Schema) (name : String) :
    jsonOrder s name (declaredNames s name) = declaredNames s name := by
  change declaredNames s name ++ sortNames (extraKeys s name (declaredNames s name)) = _
  rw [extraKeys_declaredNames, sortNames, List.mergeSort_nil, List.append_nil]

/-- A message with the declared fields in their order is shown field by field. -/
theorem toJson_message_of_declared {name : String} {fields : List (String × Value)}
    (h : fields.map Prod.fst = declaredNames s name) :
    (message name fields).toJson s = .object (fieldsToJson s fields) := by
  have hkeys : (fieldsToJson s fields).map Prod.fst = declaredNames s name :=
    (map_fst_fieldsToJson s fields).trans h
  rw [toJson_message, h, jsonOrder_declaredNames, ← hkeys]
  exact congrArg _ (pick_self (hkeys ▸ nodup_declaredNames s name))

/-! ## Trees that show values -/

variable {rule : String → List String → List String → Prop}

/-- The tree shows the value. Of an object, `rule` relates the name of its message, the keys of the
    fields and the keys of the object. -/
inductive Shows (s : Schema) (rule : String → List String → List String → Prop) :
    Value → Json → Prop
  | bool (b : Bool) : Shows s rule (.bool b) (.bool b)
  | uint (n : UInt64) : Shows s rule (.uint n) (.int n.toNat)
  | int (n : Int64) : Shows s rule (.int n) (.int n.toInt)
  | float {x : Double} (h : x.isFinite = true) : Shows s rule (.float x) (.float x)
  | noNumber {x : Double} (h : x.isFinite = false) : Shows s rule (.float x) .null
  | string (t : String) : Shows s rule (.string t) (.string t)
  | array {items : List Value} {js : List Json} (hlen : items.length = js.length)
      (h : ∀ p ∈ items.zip js, Shows s rule p.1 p.2) : Shows s rule (.array items) (.array js)
  | member {name : String} {raw : UInt64} {e : Enumeration} {m : Member}
      (he : s.enumeration? name = some e) (hm : m ∈ e.members) (hvalue : m.value = raw.toNat) :
      Shows s rule (.enumeration name raw) (.string m.name)
  | raw {name : String} {raw : UInt64}
      (h : ∀ e, s.enumeration? name = some e → ∀ m ∈ e.members, m.value ≠ raw.toNat) :
      Shows s rule (.enumeration name raw) (.int raw.toNat)
  | message {name : String} {fields : List (String × Value)} {entries : List (String × Json)}
      (hkeys : rule name (fields.map Prod.fst) (entries.map Prod.fst))
      (h : ∀ key v j, (key, v) ∈ fields → (key, j) ∈ entries → Shows s rule v j) :
      Shows s rule (.message name fields) (.object entries)

theorem toJson_float (s : Schema) (x : Double) :
    (float x).toJson s = if x.isFinite then .float x else .null := by
  rw [toJson, Double.isFinite]
  cases x.unpack <;> rfl

/-- A number is shown as itself if it is finite. -/
theorem shows_float (x : Double) : (float x).Shows s rule ((float x).toJson s) := by
  rw [toJson_float]
  cases h : x.isFinite with
  | true => exact .float h
  | false => exact .noNumber h

/-- An enum value is shown by the name of its member or by its integer. -/
theorem shows_enumeration (name : String) (raw : UInt64) :
    (enumeration name raw).Shows s rule ((enumeration name raw).toJson s) := by
  rw [toJson]
  -- The integer is shown if the enum is not known or has no member with it.
  cases he : s.enumeration? name with
  | none =>
    have hmember : (enumeration name raw).enumMember? s = none := by
      simp [enumMember?, asEnum?, he]
    rw [hmember]
    exact .raw fun e he' => by cases he.symm.trans he'
  | some e =>
    cases hm : e.memberOf? raw.toNat with
    | none =>
      have hmember : (enumeration name raw).enumMember? s = none := by
        simp [enumMember?, asEnum?, he, hm]
      rw [hmember]
      refine .raw fun e' he' m hmem hvalue => ?_
      cases he.symm.trans he'
      exact List.find?_eq_none.1 hm m hmem (beq_iff_eq.2 hvalue)
    | some m =>
      have hmember : (enumeration name raw).enumMember? s = some m.name := by
        simp [enumMember?, asEnum?, he, hm]
      rw [hmember]
      exact .member he (List.mem_of_find?_eq_some hm) (eq_of_beq (List.find?_some hm :))

/-- An array is shown item by item. -/
theorem shows_array {items : List Value} (h : ∀ v ∈ items, v.Shows s rule (v.toJson s)) :
    (array items).Shows s rule ((array items).toJson s) := by
  rw [toJson, itemsToJson_eq]
  refine .array (List.length_map _).symm fun p hp => ?_
  rw [← List.map_prod_left_eq_zip, List.mem_map] at hp
  obtain ⟨v, hv, rfl⟩ := hp
  exact h v hv

/-- A message is shown as an object if its fields are shown and the rule has its keys. -/
theorem shows_message {name : String} {fields : List (String × Value)}
    (hnodup : (fields.map Prod.fst).Nodup)
    (hrule : rule name (fields.map Prod.fst) (shownKeys s name (fields.map Prod.fst)))
    (h : ∀ p ∈ fields, p.2.Shows s rule (p.2.toJson s)) :
    (message name fields).Shows s rule ((message name fields).toJson s) := by
  rw [toJson_message]
  refine .message (map_fst_pick_jsonOrder s name fields ▸ hrule) fun key v j hv hj => ?_
  -- The entry was picked by its key, and no other field has this key.
  have hlookup := (mem_pick.1 hj).2
  rw [lookup_fieldsToJson, lookup_of_mem hnodup hv] at hlookup
  cases hlookup
  exact h _ hv

end Value

end WireSchema
