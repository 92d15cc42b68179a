import WireSchema.Proofs.Game.Schema
import WireSchema.Proofs.Value.Render
import WireSchema.Proofs.Wire.Reader
import WireSchema.Value.Decode

/-!
# Rendering loses nothing

Values that were read as one message can be told apart by their JSON, as long as their numbers are
finite (`Value.toJson_lossless`). The trees alone do not say what they show: a text can be a text or
the name of a member, and an integer can be of either sign or of an enum. But both values are
of one kind. What was read is *proper* of its kind (`Value.Proper`), and two proper values of a kind
are shown by equal trees exactly if they are equal (`Value.Proper.faithful`).

For enums this rests on the checks: no two members have one name, and no two have one integer.
-/

namespace WireSchema

open WireSchema.Number

/-! ## Equal trees -/

namespace Json

mutual

/-- Are two trees equal? Floating-point numbers are compared as numbers, and objects by their
    entries in any order. -/
def same : Json → Json → Bool
  | null, null => true
  | bool a, bool b => a == b
  | int a, int b => a == b
  | float a, float b => a.same b
  | string a, string b => a == b
  | array as, array bs => sameItems as bs
  | object es, object fs => es.length == fs.length && sameEntries es fs
  | _, _ => false

/-- Are the items of two arrays equal? -/
def sameItems : List Json → List Json → Bool
  | [], [] => true
  | a :: as, b :: bs => a.same b && sameItems as bs
  | _, _ => false

/-- Are these entries equal to those of the same keys among others? -/
def sameEntries : List (String × Json) → List (String × Json) → Bool
  | [], _ => true
  | (key, a) :: rest, others =>
    (match others.lookup key with
      | some b => a.same b
      | none => false) && sameEntries rest others

end

@[simp]
theorem same_bool (a b : Bool) : (bool a).same (bool b) = (a == b) := rfl

@[simp]
theorem same_int (a b : Int) : (int a).same (int b) = (a == b) := rfl

@[simp]
theorem same_float (a b : Double) : (float a).same (float b) = a.same b := rfl

@[simp]
theorem same_string (a b : String) : (string a).same (string b) = (a == b) := rfl

@[simp]
theorem same_int_string (a : Int) (b : String) : (int a).same (string b) = false := rfl

@[simp]
theorem same_string_int (a : String) (b : Int) : (string a).same (int b) = false := rfl

theorem same_array (as bs : List Json) : (array as).same (array bs) = sameItems as bs := rfl

theorem same_object (es fs : List (String × Json)) :
    (object es).same (object fs) = (es.length == fs.length && sameEntries es fs) :=
  rfl

theorem sameItems_cons (a b : Json) (as bs : List Json) :
    sameItems (a :: as) (b :: bs) = (a.same b && sameItems as bs) :=
  rfl

end Json

/-! ## What readers give -/

namespace Reader

variable {ε ε' α β : Type} {P : α → Prop} {Q : β → Prop} {r : Reader ε α}

/-- What the reader gives has the property, wherever it reads. -/
def Gives (r : Reader ε α) (P : α → Prop) : Prop :=
  ∀ ⦃c : Cursor⦄ ⦃a : α⦄ ⦃c' : Cursor⦄, r c = .ok a c' → P a

theorem gives_pure {a : α} (h : P a) : (pure a : Reader ε α).Gives P := by
  intro c b c' hb
  cases hb
  exact h

theorem gives_throw (stop : Stop ε) : (throw stop : Reader ε α).Gives P :=
  fun _ _ _ h => nomatch h

theorem gives_true (r : Reader ε α) : r.Gives fun _ => True :=
  fun _ _ _ _ => trivial

/-- A reader and then another give what the second gives after the first. -/
theorem Gives.bind (hr : r.Gives P) {f : α → Reader ε β} (hf : ∀ a, P a → (f a).Gives Q) :
    (r >>= f).Gives Q := by
  intro c b c'' h
  obtain ⟨a, c', ha, hb⟩ := Run.bind_eq_ok_iff.1 h
  exact hf a (hr ha) hb

/-- A function of what is read gives its values. -/
theorem gives_map {g : α → β} (h : ∀ a, Q (g a)) : (g <$> r).Gives Q := by
  intro c b c' hb
  obtain ⟨a, -, rfl⟩ := Run.map_eq_ok_iff.1 hb
  exact h a

theorem Gives.mapError (hr : r.Gives P) (g : ε → ε') : (r.mapError g).Gives P :=
  fun _ _ _ h => hr (mapError_eq_ok_iff.1 h)

/-- A repeated reader gives a list of what it gives. -/
theorem Gives.times (hr : r.Gives P) (n : Nat) : (r.times n).Gives fun as => ∀ a ∈ as, P a := by
  induction n with
  | zero => exact gives_pure fun a ha => absurd ha List.not_mem_nil
  | succ n ih =>
    rw [times_succ]
    refine hr.bind fun a ha => ?_
    intro c as c' h
    obtain ⟨rest, hrest, rfl⟩ := Run.map_eq_ok_iff.1 h
    exact List.forall_mem_cons.2 ⟨ha, ih hrest⟩

end Reader

open Reader

namespace Value

variable {s : Schema}

/-! ## Proper values -/

/-- The value has the tags and names of its kind, and its messages have the declared fields in their
    order. -/
inductive Proper (s : Schema) : Kind → Value → Prop
  | uint {t : IntType} (h : t.signed = false) (n : UInt64) :
      Proper s (.primitive (.int t)) (.uint n)
  | int {t : IntType} (h : t.signed = true) (n : Int64) : Proper s (.primitive (.int t)) (.int n)
  | single (x : Double) : Proper s (.primitive .single) (.float x)
  | double (x : Double) : Proper s (.primitive .double) (.float x)
  | bool (b : Bool) : Proper s (.primitive .bool) (.bool b)
  | string (t : String) : Proper s (.primitive .string) (.string t)
  | array {element : Kind} {items : List Value} (len : ArrayLen)
      (h : ∀ v ∈ items, Proper s element v) : Proper s (.array element len) (.array items)
  | enumeration {name : String} {e : Enumeration} (he : s.resolve? name = some (.enumeration e))
      (raw : UInt64) : Proper s (.named name) (.enumeration e.name raw)
  | message {name : String} {m : Message} {fields : List (String × Value)}
      (hm : s.resolve? name = some (.message m))
      (hkeys : fields.map Prod.fst = m.fields.map Field.name)
      (h : ∀ f ∈ m.fields, ∀ v, (f.name, v) ∈ fields → Proper s f.kind v) :
      Proper s (.named name) (.message m.name fields)

end Value

open Value

variable {s : Schema}

/-- The reader of a primitive type gives values with its tag. -/
theorem Primitive.read_gives (p : Primitive) : p.read.Gives (Proper s (.primitive p)) := by
  cases p with
  | int t =>
    rw [Primitive.read]
    split
    · next h => exact gives_map fun n => .int h _
    · next h => exact gives_map fun n => .uint (Bool.eq_false_iff.2 h) _
  | single => exact gives_map fun x => .single _
  | double => exact gives_map .double
  | bool => exact gives_map .bool
  | string => exact gives_map .string

/-- A kind is read as a proper value of it if messages are. -/
theorem Kind.read_gives {message : Message → Reader ValueError Value}
    (hmessage : ∀ m ∈ s.messages, (message m).Gives (Proper s (.named m.name))) (kind : Kind) :
    (kind.read s message).Gives (Proper s kind) := by
  induction kind with
  | primitive p => exact p.read_gives.mapError _
  | array element len ih =>
    cases len with
    | counted =>
      exact (gives_true _).bind fun n _ => (ih.times n).bind fun items hitems =>
        gives_pure (.array _ hitems)
    | fixed n =>
      refine (gives_true get).bind fun c _ => ?_
      dsimp only
      split
      · exact gives_throw _
      · split
        · exact gives_throw _
        · exact (ih.times n).bind fun items hitems => gives_pure (.array _ hitems)
  | named name =>
    rw [Kind.read]
    split
    · next e he => exact (gives_true _).bind fun raw _ => gives_pure (.enumeration he _)
    · next m hm =>
      obtain ⟨hmem, rfl⟩ := Schema.mem_of_resolve? hm
      exact hmessage m hmem
    · exact gives_throw _
  | unsupported text => exact gives_throw _

/-- The readers of fields give the declared names, with values of their kinds. -/
theorem readFields_gives {read : Kind → Reader ValueError Value}
    (hread : ∀ kind, (read kind).Gives (Proper s kind)) (fields : List Field) :
    (readFields read fields).Gives fun values => values.map Prod.fst = fields.map Field.name ∧
      ∀ p ∈ values, ∃ f ∈ fields, f.name = p.1 ∧ Proper s f.kind p.2 := by
  induction fields with
  | nil => exact gives_pure ⟨rfl, fun p hp => absurd hp List.not_mem_nil⟩
  | cons f fields ih =>
    refine (hread f.kind).bind fun v hv => ih.bind fun values hvalues => gives_pure ⟨?_, ?_⟩
    · rw [List.map_cons, List.map_cons, hvalues.1]
    · refine List.forall_mem_cons.2 ⟨⟨f, List.mem_cons_self, rfl, hv⟩, fun p hp => ?_⟩
      obtain ⟨g, hg, hproper⟩ := hvalues.2 p hp
      exact ⟨g, List.mem_cons_of_mem _ hg, hproper⟩

/-- The reader of a message gives values that have the tags and names of its declaration. -/
theorem Message.readWithin_gives (depth : Nat) {m : Message} (hm : m ∈ s.messages) :
    (m.readWithin s depth).Gives (Proper s (.named m.name)) := by
  induction depth generalizing m with
  | zero => exact gives_throw _
  | succ depth ih =>
    refine (readFields_gives (Kind.read_gives fun m hm => ih hm) m.fields).bind
      fun values hvalues => gives_pure ?_
    refine .message (Schema.resolve?_of_mem hm) hvalues.1 fun f hf v hv => ?_
    -- A field is found by its name, so names have to be distinct.
    obtain ⟨g, hg, hname, hproper⟩ := hvalues.2 _ hv
    rwa [List.inj_on_of_nodup_map (Schema.nodup_fields hm) hg hf hname] at hproper

/-- What is read as a message is a proper value of it. -/
theorem Value.readMessage_gives {m : Message} (hm : m ∈ s.messages) :
    (readMessage s m).Gives (Proper s (.named m.name)) :=
  (gives_true get).bind fun _ _ => Message.readWithin_gives _ hm

namespace Value

/-! ## Finite numbers -/

mutual

/-- Are all floating-point numbers in the value finite? -/
def allFinite : Value → Bool
  | float x => x.isFinite
  | array items => itemsFinite items
  | message _ fields => fieldsFinite fields
  | _ => true

/-- Are all floating-point numbers in the items finite? -/
def itemsFinite : List Value → Bool
  | [] => true
  | v :: rest => v.allFinite && itemsFinite rest

/-- Are all floating-point numbers in the fields finite? -/
def fieldsFinite : List (String × Value) → Bool
  | [] => true
  | (_, v) :: rest => v.allFinite && fieldsFinite rest

end

/-- The parts of a value without infinities and NaNs have none. -/
theorem allFinite_of_part {v w : Value} (hw : w.Part v) (h : v.allFinite = true) :
    w.allFinite = true := by
  cases hw with
  | item hmem =>
    rw [allFinite] at h
    induction hmem with
    | head => exact (Bool.and_eq_true_iff.1 h).1
    | tail _ _ ih => exact ih (Bool.and_eq_true_iff.1 h).2
  | field hmem =>
    rw [allFinite] at h
    induction hmem with
    | head => exact (Bool.and_eq_true_iff.1 h).1
    | tail _ _ ih => exact ih (Bool.and_eq_true_iff.1 h).2

/-! ## Telling values apart -/

/-- The trees of two values are equal exactly if the values are. -/
structure Faithful (s : Schema) (v w : Value) : Prop where
  same_eq : (v.toJson s).same (w.toJson s) = v.same w
  eq_of_toJson_eq : v.toJson s = w.toJson s → v = w

/-- A function that tells the items apart tells the lists apart. -/
theorem eq_of_map_eq {α β : Type} {f : α → β} {as bs : List α}
    (h : ∀ a ∈ as, ∀ b ∈ bs, f a = f b → a = b) (hmap : as.map f = bs.map f) : as = bs := by
  induction as generalizing bs with
  | nil => rw [List.map_eq_nil_iff.1 hmap.symm]
  | cons a as ih =>
    cases bs with
    | nil => cases hmap
    | cons b bs =>
      rw [List.map_cons, List.map_cons, List.cons.injEq] at hmap
      have hab := h a List.mem_cons_self b List.mem_cons_self hmap.1
      rw [hab, ih (fun x hx y hy => h x (List.mem_cons_of_mem _ hx) y (List.mem_cons_of_mem _ hy))
        hmap.2]

/-- Arrays are told apart by their trees if their items are. -/
theorem faithful_array {items items' : List Value}
    (h : ∀ v ∈ items, ∀ w ∈ items', Faithful s v w) : Faithful s (array items) (array items') where
  same_eq := by
    rw [toJson, toJson, itemsToJson_eq, itemsToJson_eq, Json.same_array, same]
    induction items generalizing items' with
    | nil => cases items' <;> rfl
    | cons v items ih =>
      cases items' with
      | nil => rfl
      | cons w items' =>
        rw [List.map_cons, List.map_cons, Json.sameItems_cons, sameItems,
          (h v List.mem_cons_self w List.mem_cons_self).same_eq,
          ih fun x hx y hy => h x (List.mem_cons_of_mem _ hx) y (List.mem_cons_of_mem _ hy)]
  eq_of_toJson_eq heq := by
    rw [toJson, toJson, itemsToJson_eq, itemsToJson_eq, Json.array.injEq] at heq
    rw [eq_of_map_eq (fun v hv w hw => (h v hv w hw).eq_of_toJson_eq) heq]

theorem sameEntries_fieldsToJson {fields fields' : List (String × Value)}
    (h : ∀ key v w, (key, v) ∈ fields → (key, w) ∈ fields' → Faithful s v w) :
    Json.sameEntries (fieldsToJson s fields) (fieldsToJson s fields') =
      sameFields fields fields' := by
  induction fields with
  | nil => rfl
  | cons p fields ih =>
    rw [fieldsToJson, Json.sameEntries, sameFields, lookup_fieldsToJson,
      ih fun key v w hv => h key v w (List.mem_cons_of_mem _ hv)]
    cases hw : fields'.lookup p.1 with
    | none => rfl
    | some w =>
      have hfaithful := h p.1 p.2 w List.mem_cons_self (mem_of_lookup_eq_some hw)
      exact congrArg (· && _) hfaithful.same_eq

/-- Messages with the declared fields are told apart by their trees if their fields are. -/
theorem faithful_message {name : String} {fields fields' : List (String × Value)}
    (hkeys : fields.map Prod.fst = declaredNames s name)
    (hkeys' : fields'.map Prod.fst = declaredNames s name)
    (h : ∀ key v w, (key, v) ∈ fields → (key, w) ∈ fields' → Faithful s v w) :
    Faithful s (message name fields) (message name fields') where
  same_eq := by
    rw [toJson_message_of_declared hkeys, toJson_message_of_declared hkeys', Json.same_object,
      same, sameEntries_fieldsToJson h, fieldsToJson_eq, fieldsToJson_eq, List.length_map,
      List.length_map, beq_self_eq_true, Bool.true_and]
  eq_of_toJson_eq heq := by
    rw [toJson_message_of_declared hkeys, toJson_message_of_declared hkeys', Json.object.injEq,
      fieldsToJson_eq, fieldsToJson_eq] at heq
    refine congrArg _ (eq_of_map_eq (fun p hp q hq hpq => ?_) heq)
    obtain ⟨key, v⟩ := p
    obtain ⟨key', w⟩ := q
    obtain ⟨rfl, hvw⟩ := Prod.mk.inj hpq
    rw [(h key v w hp hq).eq_of_toJson_eq hvw]

/-- Where equality of trees and of values is that of Lean, it is enough that trees are equal for
    equal values only. -/
theorem faithful_of_inj {v w : Value}
    (hjson : (v.toJson s).same (w.toJson s) = true ↔ v.toJson s = w.toJson s)
    (hvalue : v.same w = true ↔ v = w) (hinj : v.toJson s = w.toJson s → v = w) :
    Faithful s v w where
  same_eq := by
    rw [Bool.eq_iff_iff, hjson, hvalue]
    exact ⟨hinj, congrArg (toJson s)⟩
  eq_of_toJson_eq := hinj

theorem faithful_uint (n n' : UInt64) : Faithful s (uint n) (uint n') := by
  refine faithful_of_inj ?_ ?_ fun h => ?_
  · simp [toJson]
  · simp [same]
  · rw [toJson, toJson] at h
    rw [UInt64.toNat_inj.1 (Int.ofNat.inj (Json.int.inj h))]

theorem faithful_int (n n' : Int64) : Faithful s (int n) (int n') := by
  refine faithful_of_inj ?_ ?_ fun h => ?_
  · simp [toJson]
  · simp [same]
  · simpa [toJson, Int64.toInt_inj] using h

/-- Finite numbers are told apart by their trees; all others are rendered as null. -/
theorem faithful_float {x x' : Double} (hx : x.isFinite = true) (hx' : x'.isFinite = true) :
    Faithful s (float x) (float x') where
  same_eq := by simp [toJson_float, hx, hx', same]
  eq_of_toJson_eq h := by simpa [toJson_float, hx, hx'] using h

theorem faithful_bool (b b' : Bool) : Faithful s (bool b) (bool b') := by
  refine faithful_of_inj ?_ ?_ fun h => ?_
  · simp [toJson]
  · simp [same]
  · simpa [toJson] using h

theorem faithful_string (t t' : String) : Faithful s (string t) (string t') := by
  refine faithful_of_inj ?_ ?_ fun h => ?_
  · simp [toJson]
  · simp [same]
  · simpa [toJson] using h

/-- An enum value is rendered as the name of its member, or else as its integer. -/
theorem toJson_enumeration {e : Enumeration} (he : e ∈ s.enums) (raw : UInt64) :
    (enumeration e.name raw).toJson s =
      ((e.memberOf? raw.toNat).map fun m => Json.string m.name).getD (.int raw.toNat) := by
  rw [toJson]
  cases hm : e.memberOf? raw.toNat <;>
    simp [enumMember?, asEnum?, Schema.enumeration?_of_mem he, hm]

/-- Members have different names and values, so the rendering tells enum values apart. -/
theorem eq_of_toJson_enumeration_eq {e : Enumeration} (he : e ∈ s.enums) {raw raw' : UInt64}
    (h : (enumeration e.name raw).toJson s = (enumeration e.name raw').toJson s) : raw = raw' := by
  have hwf := s.wellFormed.enums_wellFormed e he
  rw [toJson_enumeration he, toJson_enumeration he] at h
  cases hm : e.memberOf? raw.toNat with
  | none =>
    cases hm' : e.memberOf? raw'.toNat with
    | none =>
      rw [hm, hm'] at h
      exact UInt64.toNat_inj.1 (Int.ofNat.inj (Json.int.inj h))
    | some m' =>
      rw [hm, hm'] at h
      cases h
  | some m =>
    cases hm' : e.memberOf? raw'.toNat with
    | none =>
      rw [hm, hm'] at h
      cases h
    | some m' =>
      -- Two members of one name are the same member, which has one integer.
      rw [hm, hm'] at h
      have hname : m.name = m'.name := Json.string.inj h
      have hmember : m = m' := List.inj_on_of_nodup_map hwf.names_distinct
        (List.mem_of_find?_eq_some hm) (List.mem_of_find?_eq_some hm')
        (congrArg Naming.typeIdent hname)
      have hvalue : m.value = raw.toNat := eq_of_beq (List.find?_some hm :)
      have hvalue' : m'.value = raw'.toNat := eq_of_beq (List.find?_some hm' :)
      rw [hmember, hvalue'] at hvalue
      exact UInt64.toNat_inj.1 (Int.ofNat.inj hvalue).symm

theorem faithful_enumeration {e : Enumeration} (he : e ∈ s.enums) (raw raw' : UInt64) :
    Faithful s (enumeration e.name raw) (enumeration e.name raw') := by
  refine faithful_of_inj ?_ ?_ fun h => by rw [eq_of_toJson_enumeration_eq he h]
  · rw [toJson_enumeration he, toJson_enumeration he]
    cases e.memberOf? raw.toNat <;> cases e.memberOf? raw'.toNat <;> simp
  · simp [same]

/-! ## Proper values of one kind -/

/-- The names of the fields are those that the schema declares. -/
theorem map_fst_eq_declaredNames {name : String} {m : Message} {fields : List (String × Value)}
    (hm : s.resolve? name = some (.message m))
    (hkeys : fields.map Prod.fst = m.fields.map Field.name) :
    fields.map Prod.fst = declaredNames s m.name := by
  rw [declaredNames, Schema.message?_of_mem (Schema.mem_of_resolve? hm).1, hkeys]

/-- Proper values of one kind are told apart by their trees. -/
theorem Proper.faithful {kind : Kind} {v w : Value} (hv : v.Proper s kind) (hw : w.Proper s kind)
    (hfinite : v.allFinite = true) (hfinite' : w.allFinite = true) : Faithful s v w := by
  induction hv generalizing w with
  | uint hsigned n =>
    cases hw with
    | uint _ n' => exact faithful_uint n n'
    | int hsigned' _ => cases hsigned.symm.trans hsigned'
  | int hsigned n =>
    cases hw with
    | uint hsigned' _ => cases hsigned.symm.trans hsigned'
    | int _ n' => exact faithful_int n n'
  | single x =>
    cases hw with
    | single x' => exact faithful_float hfinite hfinite'
  | double x =>
    cases hw with
    | double x' => exact faithful_float hfinite hfinite'
  | bool b =>
    cases hw with
    | bool b' => exact faithful_bool b b'
  | string t =>
    cases hw with
    | string t' => exact faithful_string t t'
  | array len _ ih =>
    cases hw with
    | array _ hitems =>
      exact faithful_array fun v hv w hw => ih v hv (hitems w hw)
        (allFinite_of_part (.item hv) hfinite) (allFinite_of_part (.item hw) hfinite')
  | enumeration he raw =>
    cases hw with
    | enumeration he' raw' =>
      cases he.symm.trans he'
      exact faithful_enumeration (Schema.mem_enums_of_resolve? he).1 raw raw'
    | message hm _ _ => cases he.symm.trans hm
  | message hm hkeys _ ih =>
    cases hw with
    | enumeration he _ => cases hm.symm.trans he
    | message hm' hkeys' hfields =>
      cases hm.symm.trans hm'
      refine faithful_message (map_fst_eq_declaredNames hm hkeys)
        (map_fst_eq_declaredNames hm hkeys') fun key v w hv hw => ?_
      -- The two fields have one name, so they are of the kind that is declared for it.
      have hkey := List.mem_map_of_mem (f := Prod.fst) hv
      rw [hkeys] at hkey
      obtain ⟨f, hf, rfl⟩ := List.mem_map.1 hkey
      exact ih f hf v hv (hfields f hf w hw) (allFinite_of_part (.field hv) hfinite)
        (allFinite_of_part (.field hw) hfinite')

/-- The keys of an object are the names of the fields that the message declares, in their order. -/
def AsDeclared (s : Schema) (name : String) (_ shown : List String) : Prop :=
  ∃ m, s.message? name = some m ∧ shown = m.fields.map Field.name

/-- A proper value is shown with the declared keys. -/
theorem Proper.shows {kind : Kind} {v : Value} (h : v.Proper s kind) :
    v.Shows s (AsDeclared s) (v.toJson s) := by
  induction h with
  | uint _ n => exact .uint n
  | int _ n => exact .int n
  | single x => exact shows_float x
  | double x => exact shows_float x
  | bool b => exact .bool b
  | string t => exact .string t
  | array len _ ih => exact shows_array ih
  | enumeration he raw => exact shows_enumeration _ raw
  | message hm hkeys _ ih =>
    have hmem := (Schema.mem_of_resolve? hm).1
    have hdeclared := map_fst_eq_declaredNames hm hkeys
    have hnodup := hdeclared ▸ nodup_declaredNames s _
    refine shows_message hnodup ⟨_, Schema.message?_of_mem hmem, ?_⟩ fun p hp => ?_
    · rw [hdeclared, shownKeys_declaredNames, ← hdeclared, hkeys]
    · have hkey := List.mem_map_of_mem (f := Prod.fst) hp
      rw [hkeys] at hkey
      obtain ⟨f, hf, hname⟩ := List.mem_map.1 hkey
      exact ih f hf p.2 (hname ▸ hp)

/-- JSON loses nothing of what was read. The object of every message in it has the declared names as
    its keys, in the order of their declaration. And two values that were read as one message,
    from whatever data, and whose numbers are finite have equal trees only if they are equal. -/
theorem toJson_lossless {m : Message} (hm : m ∈ s.messages) {c c' d d' : Cursor} {v w : Value}
    (hv : readMessage s m c = .ok v c') (hw : readMessage s m d = .ok w d') :
    v.Shows s (AsDeclared s) (v.toJson s) ∧
    (v.allFinite = true → w.allFinite = true →
      ((v.toJson s).same (w.toJson s) = true ↔ v.same w = true) ∧
      (v.toJson s = w.toJson s ↔ v = w)) := by
  have hproper := readMessage_gives hm hv
  refine ⟨hproper.shows, fun hfinite hfinite' => ?_⟩
  have hfaithful := hproper.faithful (readMessage_gives hm hw) hfinite hfinite'
  exact ⟨by rw [hfaithful.same_eq], hfaithful.eq_of_toJson_eq, congrArg (toJson s)⟩

/-- The bytes of a player at `(1, ± 0, 2)`, where the sign is given by its byte. The reason is an
    integer without a member. -/
def groundedData (sign : UInt8) : ByteArray :=
  ⟨#[1, 0, 0, 0, 65, 0, 0, 128, 63, 0, 0, 0, sign, 0, 0, 0, 64, 0, 0, 0, 0, 9, 2, 1, 3, 0, 0, 0]⟩

/-- The player of these bytes. -/
def grounded (zero : Double) : Value :=
  .message "PlayerState" [
    ("name", .string "A"),
    ("position", .array [.float ⟨0x3ff0000000000000⟩, .float zero, .float ⟨0x4000000000000000⟩]),
    ("inventory", .array []),
    ("reason", .enumeration "DisconnectReason" 9),
    ("team", .enumeration "Team" 2),
    ("alive", .bool true),
    ("score", .int 3)]

/-- The two zeros compare as the same, in the values and in the trees, and differ in both. -/
theorem toJson_lossless_grounded :
    let v := grounded ⟨0⟩
    let w := grounded ⟨0x8000000000000000⟩
    readMessage Game.schema Game.Decl.playerState (.start (groundedData 0)) =
      .ok v ⟨groundedData 0, 28⟩ ∧
    readMessage Game.schema Game.Decl.playerState (.start (groundedData 128)) =
      .ok w ⟨groundedData 128, 28⟩ ∧
    v.same w = true ∧ (v.toJson Game.schema).same (w.toJson Game.schema) = true ∧
    v ≠ w ∧ v.toJson Game.schema ≠ w.toJson Game.schema := by
  intro v w
  have hplayer : Game.Decl.playerState ∈ Game.schema.messages := by
    simp [Schema.messages, Game.schema, Game.model]
  have hv : readMessage Game.schema Game.Decl.playerState (.start (groundedData 0)) =
    .ok v ⟨groundedData 0, 28⟩ := rfl
  have hw : readMessage Game.schema Game.Decl.playerState (.start (groundedData 128)) =
    .ok w ⟨groundedData 128, 28⟩ := rfl
  obtain ⟨-, hlossless⟩ := toJson_lossless hplayer hv hw
  obtain ⟨hsame, heq⟩ := hlossless (by decide +kernel) (by decide +kernel)
  have hvw : v.same w = true := by decide +kernel
  have hne : v ≠ w := fun h => by
    simp [v, w, grounded] at h
  exact ⟨hv, hw, hvw, hsame.2 hvw, hne, mt heq.1 hne⟩

end Value

end WireSchema
