import WireSchema.Proofs.Game.Schema
import WireSchema.Proofs.Value.Render
import WireSchema.Value.Encode

/-!
# The order in which fields were set

A message holds its fields in the order in which they were set. Nothing shows this order: values
that differ in nothing else (`Value.Reorders`) are encoded to the same bytes or with the same error,
and have the same JSON and the same text (`Value.alike_of_reorders`).

The three ways through a value meet the fields of a message in different orders: as the message
declares them, declared ones first and then the others by name, and by name. But all of them find a
field by its key. So they see no more than what is under each key (`lookup_map_eq`), and the keys in
an order that is made from all of them.
-/

namespace WireSchema.Value

/-! ## Values in another order -/

/-- The values differ at most in the order in which the fields of messages were set, at any depth.
    The keys of every message are distinct. -/
inductive Reorders : Value → Value → Prop
  | bool (b : Bool) : Reorders (.bool b) (.bool b)
  | uint (n : UInt64) : Reorders (.uint n) (.uint n)
  | int (n : Int64) : Reorders (.int n) (.int n)
  | float (x : Number.Double) : Reorders (.float x) (.float x)
  | string (t : String) : Reorders (.string t) (.string t)
  | enumeration (name : String) (raw : UInt64) :
      Reorders (.enumeration name raw) (.enumeration name raw)
  | array {items items' : List Value} (hlen : items.length = items'.length)
      (h : ∀ p ∈ items.zip items', Reorders p.1 p.2) : Reorders (.array items) (.array items')
  | message (name : String) {fields fields' : List (String × Value)}
      (hnodup : (fields.map Prod.fst).Nodup)
      (hkeys : (fields.map Prod.fst).Perm (fields'.map Prod.fst))
      (h : ∀ key v w, (key, v) ∈ fields → (key, w) ∈ fields' → Reorders v w) :
      Reorders (.message name fields) (.message name fields')

section

variable {name : String} {fields entries entries' : List (String × Value)}

/-- A message with fields set one after the other. -/
def setAll (v : Value) (entries : List (String × Value)) : Value :=
  entries.foldl (fun v p => v.set p.1 p.2) v

/-- A field with a new name goes behind the others. -/
theorem setField_of_notMem {key : String} (h : key ∉ fields.map Prod.fst) (v : Value) :
    setField key v fields = fields ++ [(key, v)] := by
  induction fields with
  | nil => rfl
  | cons p fields ih =>
    obtain ⟨hp, hfields⟩ := not_or.1 (mt List.mem_cons.2 h)
    have hne : (p.1 == key) = false := beq_eq_false_iff_ne.2 (Ne.symm hp)
    rw [setField, hne, ih hfields]
    rfl

/-- Fields with new names are set in their order. -/
theorem setAll_message (h : ((fields ++ entries).map Prod.fst).Nodup) :
    (message name fields).setAll entries = message name (fields ++ entries) := by
  induction entries generalizing fields with
  | nil => rw [List.append_nil]; rfl
  | cons p entries ih =>
    have hkey : p.1 ∉ fields.map Prod.fst := by
      rw [List.map_append, List.nodup_append] at h
      exact fun hmem => h.2.2 _ hmem _ List.mem_cons_self rfl
    rw [List.append_cons] at h ⊢
    rw [← ih h, ← setField_of_notMem hkey]
    rfl

/-- Fields that are set in two orders make values that differ in nothing else. -/
theorem reorders_setAll (hnodup : (entries.map Prod.fst).Nodup)
    (hkeys : (entries.map Prod.fst).Perm (entries'.map Prod.fst))
    (h : ∀ key v w, (key, v) ∈ entries → (key, w) ∈ entries' → v.Reorders w) :
    ((message name []).setAll entries).Reorders ((message name []).setAll entries') := by
  have hset : (message name []).setAll entries = message name entries := setAll_message hnodup
  have hset' : (message name []).setAll entries' = message name entries' :=
    setAll_message (hkeys.nodup_iff.1 hnodup)
  rw [hset, hset']
  exact .message name hnodup hkeys h

end

/-! ## What is seen of parts -/

section

variable {β : Type} {f : Value → β}

/-- What is seen of items one by one is the same for lists that look alike place by place. -/
theorem map_eq_of_zip {items items' : List Value} (hlen : items.length = items'.length)
    (h : ∀ p ∈ items.zip items', f p.1 = f p.2) : items.map f = items'.map f := by
  induction items generalizing items' with
  | nil => rw [List.length_eq_zero_iff.1 hlen.symm]
  | cons v items ih =>
    cases items' with
    | nil => cases hlen
    | cons w items' =>
      obtain ⟨hvw, hrest⟩ := List.forall_mem_cons.1 h
      rw [List.map_cons, List.map_cons, hvw, ih (Nat.succ.inj hlen) hrest]

/-- What is seen of a field by its key is the same in both orders. -/
theorem lookup_map_eq {fields fields' : List (String × Value)}
    (hkeys : (fields.map Prod.fst).Perm (fields'.map Prod.fst))
    (h : ∀ key v w, (key, v) ∈ fields → (key, w) ∈ fields' → f v = f w) (key : String) :
    (fields.lookup key).map f = (fields'.lookup key).map f := by
  cases hv : fields.lookup key with
  | none =>
    have hnone : fields'.lookup key = none :=
      lookup_eq_none_iff_notMem.2 fun hkey => lookup_eq_none_iff_notMem.1 hv (hkeys.mem_iff.2 hkey)
    rw [hnone]
  | some v =>
    cases hw : fields'.lookup key with
    | none =>
      have hkey : key ∈ fields.map Prod.fst := List.mem_map_of_mem (mem_of_lookup_eq_some hv)
      exact absurd (hkeys.mem_iff.1 hkey) (lookup_eq_none_iff_notMem.1 hw)
    | some w =>
      exact congrArg some (h key v w (mem_of_lookup_eq_some hv) (mem_of_lookup_eq_some hw))

end

variable {v w : Value} {s : Schema}

/-! ## Encoding -/

/-- Items are written by what each of them writes. -/
theorem writeItems_eq_foldr (s : Schema) (items : List Value) (element : Kind) :
    writeItems s items element =
      (items.map fun v => v.write s element).foldr (fun write rest => do write; rest)
        (pure ()) := by
  induction items with
  | nil => rfl
  | cons v items ih => rw [writeItems, ih, List.map_cons, List.foldr_cons]

/-- Fields are written by look-up alone. -/
theorem writeFields_congr {m : Message}
    {writers writers' : List (String × (Kind → Writer ValueError Unit))}
    (h : ∀ key, writers.lookup key = writers'.lookup key) (fields : List Field) :
    writeFields m writers fields = writeFields m writers' fields := by
  induction fields with
  | nil => rfl
  | cons f fields ih => rw [writeFields, writeFields, h, ih]

/-- Values with the same fields in other orders are written alike. -/
theorem Reorders.write_eq (h : v.Reorders w) : v.write s = w.write s := by
  funext kind
  induction h generalizing kind with
  | bool | uint | int | float | string | enumeration => rfl
  | array hlen _ ih =>
    unfold write
    cases kind with
    | array element len =>
      have hitems :=
        map_eq_of_zip (f := fun v => v.write s element) hlen fun p hp => ih p hp element
      simp only [hlen, writeItems_eq_foldr, hitems]
    | primitive p => cases p <;> rfl
    | named | unsupported => rfl
  | message name hnodup hkeys _ ih =>
    unfold write
    cases kind with
    | named type =>
      -- A message is written in the order of its declaration, each field looked up by its name.
      have hwriters (key : String) := lookup_map_eq (f := fun v => v.write s) hkeys
        (fun key v w hv hw => funext (ih key v w hv hw)) key
      simp only [← lookup_fieldWriters] at hwriters
      simp only [writeFields_congr hwriters]
      rfl
    | primitive p => cases p <;> rfl
    | array | unsupported => rfl

theorem Reorders.encode_eq (h : v.Reorders w) : v.encode s = w.encode s := by
  have hwrite := h.write_eq (s := s)
  cases h with
  | bool | uint | int | float | string | enumeration | array => rfl
  | message => rw [encode, encode, hwrite]

/-! ## Rendering -/

/-- The order of the keys in an object does not depend on the order of the fields. -/
theorem jsonOrder_of_perm {name : String} {keys keys' : List String} (h : keys.Perm keys') :
    jsonOrder s name keys = jsonOrder s name keys' :=
  congrArg (declaredNames s name ++ ·) (sortNames_of_perm (h.filter _))

/-- Values with the same fields in other orders are rendered as the same tree. -/
theorem Reorders.toJson_eq (h : v.Reorders w) : v.toJson s = w.toJson s := by
  induction h with
  | bool | uint | int | float | string | enumeration => rfl
  | array hlen _ ih =>
    rw [toJson, toJson, itemsToJson_eq, itemsToJson_eq, map_eq_of_zip hlen ih]
  | message name hnodup hkeys _ ih =>
    have hentries (key : String) := lookup_map_eq hkeys ih key
    simp only [← lookup_fieldsToJson] at hentries
    rw [toJson_message, toJson_message, pick_congr hentries, jsonOrder_of_perm hkeys]

/-- Values with the same fields in other orders have the same text. -/
theorem Reorders.toText_eq (h : v.Reorders w) : v.toText = w.toText := by
  induction h with
  | bool | uint | int | float | string | enumeration => rfl
  | array hlen _ ih =>
    rw [toText, toText, itemsToText_eq, itemsToText_eq, map_eq_of_zip hlen ih]
  | message name hnodup hkeys _ ih =>
    have hentries (key : String) := lookup_map_eq hkeys ih key
    simp only [← lookup_fieldsToText] at hentries
    simp only [toText, map_fst_fieldsToText, pick_congr hentries, sortNames_of_perm hkeys]

/-- A value with distinct keys is shown with all its keys in their places. -/
theorem Reorders.shows (h : v.Reorders w) : v.Shows s (Arranged s) (v.toJson s) := by
  induction h with
  | bool b => exact .bool b
  | uint n => exact .uint n
  | int n => exact .int n
  | float x => exact shows_float x
  | string t => exact .string t
  | enumeration name raw => exact shows_enumeration name raw
  | array hlen _ ih =>
    refine shows_array fun v hv => ?_
    rw [← List.map_fst_zip (Nat.le_of_eq hlen)] at hv
    obtain ⟨p, hp, rfl⟩ := List.mem_map.1 hv
    exact ih p hp
  | message name hnodup hkeys _ ih =>
    refine shows_message hnodup (arranged_shownKeys hnodup) fun p hp => ?_
    obtain ⟨q, hq, hkey⟩ := List.mem_map.1 (hkeys.mem_iff.1 (List.mem_map_of_mem hp))
    exact ih p.1 p.2 q.2 hp (hkey ▸ hq)

/-- The order in which fields were set is not seen. Values that differ in nothing else are encoded
    to the same bytes or with the same error, have the same JSON, in which the declared fields of
    every message stand first, as they are declared, and the others behind them in ascending order,
    and have the same text. -/
theorem alike_of_reorders (h : v.Reorders w) (s : Schema) :
    v.encode s = w.encode s ∧
    (∀ kind, v.encodeField s kind = w.encodeField s kind) ∧
    v.toJson s = w.toJson s ∧ v.Shows s (Arranged s) (v.toJson s) ∧
    v.toText = w.toText := by
  refine ⟨h.encode_eq, fun kind => ?_, h.toJson_eq, h.shows, h.toText_eq⟩
  rw [encodeField, encodeField, h.write_eq]

/-- A tree without children, by its fields. -/
def leafFields : List (String × Value) :=
  [("value", .int 5), ("children", .array [])]

/-- The fields of a tree with a child, two of which are not declared. -/
def treeFields (child : Value) : List (String × Value) :=
  [("note", .bool true), ("children", .array [child]), ("age", .int 3), ("value", .uint 7)]

/-- A tree and its child, with their fields set in one order and in the other. -/
theorem alike_of_reorders_treeFields :
    let leaf := (message "TreeNode" []).setAll leafFields
    let leaf' := (message "TreeNode" []).setAll leafFields.reverse
    let v := (message "TreeNode" []).setAll (treeFields leaf)
    let w := (message "TreeNode" []).setAll (treeFields leaf').reverse
    v.Reorders w ∧ v.encode Game.schema = w.encode Game.schema ∧
    v.toJson Game.schema = w.toJson Game.schema ∧ v.toText = w.toText := by
  intro leaf leaf' v w
  have hnil : (array []).Reorders (array []) := .array rfl fun _ hp => absurd hp List.not_mem_nil
  have hleaf : leaf.Reorders leaf' := by
    refine reorders_setAll (by decide) (by decide) fun key v w hv hw => ?_
    simp only [leafFields, List.reverse_cons, List.reverse_nil, List.nil_append, List.cons_append,
      List.mem_cons, List.not_mem_nil, or_false, Prod.mk.injEq] at hv hw
    rcases hv with ⟨rfl, rfl⟩ | ⟨rfl, rfl⟩ <;> simp at hw <;> subst hw
    · exact .int 5
    · exact hnil
  have h : v.Reorders w := by
    refine reorders_setAll (by decide) (by decide) fun key v w hv hw => ?_
    simp only [treeFields, List.reverse_cons, List.reverse_nil, List.nil_append, List.cons_append,
      List.mem_cons, List.not_mem_nil, or_false, Prod.mk.injEq] at hv hw
    rcases hv with ⟨rfl, rfl⟩ | ⟨rfl, rfl⟩ | ⟨rfl, rfl⟩ | ⟨rfl, rfl⟩ <;> simp at hw <;> subst hw
    · exact .bool true
    · refine .array rfl fun p hp => ?_
      cases List.mem_singleton.1 hp
      exact hleaf
    · exact .int 3
    · exact .uint 7
  obtain ⟨hencode, -, hjson, -, htext⟩ := alike_of_reorders h Game.schema
  exact ⟨h, hencode, hjson, htext⟩

end WireSchema.Value
