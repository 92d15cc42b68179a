import Mathlib.Data.List.Find
import Mathlib.Data.List.Nodup
import WireSchema.Schema.Model

/-!
# Look-ups by keys

Messages and enums are looked up through indices, which hold a position for each key. An index is a
hash map that is filled item by item, so an item takes the place of an earlier one with its key
(`keyIndex_getElem?`), and a look-up finds the last item with a key. Where keys are distinct this is
what a search from the front finds (`lookUp?_eq_find?`), in whatever order the items stand
(`lookUp?_of_perm`).
-/

namespace WireSchema

variable {α κ : Type} [BEq κ] {key : α → κ} {items : List α} {k : κ}

/-! ## Positions -/

section

variable [LawfulBEq κ]

/-- The position of a key is that of an item with the key. -/
theorem exists_of_lastIndexOf? {i : Nat} (h : lastIndexOf? key items k = some i) :
    ∃ a, items[i]? = some a ∧ key a = k := by
  obtain ⟨⟨a, i⟩, ha, rfl⟩ := Option.map_eq_some_iff.1 h
  obtain ⟨hmem, hkey⟩ := List.mem_filter.1 (List.mem_of_getLast? ha)
  exact ⟨a, List.mem_zipIdx_iff_getElem?.1 hmem, eq_of_beq hkey⟩

/-- The key of every item has a position. -/
theorem exists_lastIndexOf?_of_mem {a : α} (ha : a ∈ items) :
    ∃ i, lastIndexOf? key items (key a) = some i := by
  obtain ⟨i, hi⟩ := List.getElem?_of_mem ha
  cases hlast : lastIndexOf? key items (key a) with
  | some j => exact ⟨j, rfl⟩
  | none =>
    -- The item itself is among those with its key.
    have hnone := List.getLast?_eq_none_iff.1 (Option.map_eq_none_iff.1 hlast)
    have hself := List.filter_eq_nil_iff.1 hnone (a, i) (List.mem_zipIdx_iff_getElem?.2 hi)
    exact absurd (beq_self_eq_true (key a)) hself

end

/-- What is done to the items does not move them, if it leaves their keys. -/
theorem lastIndexOf?_map {f : α → α} (hkey : ∀ a, key (f a) = key a) :
    lastIndexOf? key (items.map f) k = lastIndexOf? key items k := by
  have hcomp : (fun p : α × Nat => key p.1 == k) ∘ Prod.map f id = fun p => key p.1 == k := by
    funext p
    exact congrArg (· == k) (hkey p.1)
  simp only [lastIndexOf?, List.zipIdx_map, List.filter_map, List.getLast?_map, Option.map_map,
    hcomp]
  rfl

/-! ## Hash maps -/

section

variable [Hashable κ]

/-- The positions of items by key, collected from the first item to the last. -/
def keyIndex (key : α → κ) (items : List α) : Std.HashMap κ Nat :=
  .ofList (items.zipIdx.map fun p => (key p.1, p.2))

/-- Of entries that are put into a map one after the other, the last one with a key counts. -/
theorem getElem?_insertMany [LawfulBEq κ] [LawfulHashable κ] {β : Type} (map : Std.HashMap κ β)
    (entries : List (κ × β)) (k : κ) :
    (map.insertMany entries)[k]? =
      ((entries.filter fun e => e.1 == k).getLast?.map Prod.snd).or map[k]? := by
  induction entries generalizing map with
  | nil => simp
  | cons e entries ih =>
    obtain ⟨key, value⟩ := e
    rw [Std.HashMap.insertMany_cons, ih, Std.HashMap.getElem?_insert, List.filter_cons]
    by_cases hkey : (key == k) = true
    · -- The entry counts unless a later one has its key.
      rw [if_pos hkey, if_pos hkey, List.getLast?_cons]
      cases (entries.filter fun e => e.1 == k).getLast? <;> rfl
    · rw [if_neg hkey, if_neg hkey]

/-- The index leads from a key to the last item that has it. -/
theorem keyIndex_getElem? [LawfulBEq κ] [LawfulHashable κ] (key : α → κ) (items : List α) (k : κ) :
    (keyIndex key items)[k]? = lastIndexOf? key items k := by
  rw [keyIndex, Std.HashMap.ofList_eq_insertMany_empty, getElem?_insertMany]
  simp only [List.filter_map, List.getLast?_map, Option.map_map, Std.HashMap.getElem?_empty,
    Option.or_none]
  rfl

end

/-! ## Items -/

section

variable [LawfulBEq κ]

/-- What is found is one of the items and has the key. -/
theorem lookUp?_eq_some {a : α} (h : lookUp? key items k = some a) : a ∈ items ∧ key a = k := by
  obtain ⟨i, hi, ha⟩ := Option.bind_eq_some_iff.1 h
  obtain ⟨b, hb, hkey⟩ := exists_of_lastIndexOf? hi
  cases ha.symm.trans hb
  exact ⟨List.mem_of_getElem? ha, hkey⟩

/-- Where keys are distinct, an item is found by its key. -/
theorem lookUp?_of_mem (hkeys : (items.map key).Nodup) {a : α} (ha : a ∈ items) :
    lookUp? key items (key a) = some a := by
  obtain ⟨i, hi⟩ : ∃ i, lastIndexOf? key items (key a) = some i := exists_lastIndexOf?_of_mem ha
  obtain ⟨b, hb, hkey⟩ := exists_of_lastIndexOf? hi
  rw [lookUp?, hi, Option.bind_some, hb]
  rw [List.inj_on_of_nodup_map hkeys (List.mem_of_getElem? hb) ha hkey]

/-- Where keys are distinct, what is looked up by its key is found from the front. -/
theorem find?_key_of_nodup (h : (items.map key).Nodup) {a : α} (ha : a ∈ items) :
    items.find? (fun b => key b == key a) = some a := by
  cases hfind : items.find? (fun b => key b == key a) with
  | none => exact absurd (beq_self_eq_true (key a)) (List.find?_eq_none.1 hfind a ha)
  | some b =>
    have hkey : key b = key a := eq_of_beq (List.find?_some hfind :)
    rw [List.inj_on_of_nodup_map h (List.mem_of_find?_eq_some hfind) ha hkey]

/-- Where keys are distinct, the first item with a key is the last one. -/
theorem lookUp?_eq_find? (hkeys : (items.map key).Nodup) (k : κ) :
    lookUp? key items k = items.find? fun a => key a == k := by
  cases hlook : lookUp? key items k with
  | some a =>
    obtain ⟨ha, rfl⟩ := lookUp?_eq_some hlook
    exact (find?_key_of_nodup hkeys ha).symm
  | none =>
    refine (List.find?_eq_none.2 fun a ha hkey => ?_).symm
    obtain rfl := eq_of_beq hkey
    cases hlook.symm.trans (lookUp?_of_mem hkeys ha)

/-- Where keys are distinct, the order makes no difference to what is looked up by its key. -/
theorem lookUp?_of_perm {items' : List α} (hperm : items.Perm items')
    (hkeys : (items.map key).Nodup) (k : κ) : lookUp? key items k = lookUp? key items' k := by
  have hkeys' : (items'.map key).Nodup := (hperm.map key).nodup_iff.1 hkeys
  rw [lookUp?_eq_find? hkeys, lookUp?_eq_find? hkeys']
  refine List.find?_eq_find?_of_perm hperm ?_
  rintro a ⟨ha, hak⟩ b ⟨hb, hbk⟩
  exact List.inj_on_of_nodup_map hkeys ha hb ((eq_of_beq hak).trans (eq_of_beq hbk).symm)

end

/-- A function that keeps the keys may be applied before or after looking up. -/
theorem lookUp?_map {f : α → α} (hkey : ∀ a, key (f a) = key a) :
    lookUp? key (items.map f) k = (lookUp? key items k).map f := by
  simp only [lookUp?, lastIndexOf?_map hkey, List.getElem?_map]
  cases lastIndexOf? key items k <;> rfl

end WireSchema
