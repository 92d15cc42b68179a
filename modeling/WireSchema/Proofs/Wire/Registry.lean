import WireSchema.Proofs.Wire.Reader
import WireSchema.Wire.Registry

/-!
# Finding entries by halving

In a registry whose entries are sorted by identifier, halving finds what a search from the front
finds (`Registry.get?_eq_find?`). The part that is halved keeps two things: its first entry is not
above the identifier, unless it is the very first, and all entries behind the part are above.
-/

namespace WireSchema.Registry

variable {μ : Type} {entries : Array (Entry μ)} {id : UInt32}

/-- Identifiers go up. -/
def Sorted (entries : Array (Entry μ)) : Prop :=
  entries.toList.Pairwise fun a b => a.id < b.id

/-- Further on in a sorted table the identifiers are greater. -/
theorem Sorted.lt (h : Sorted entries) {i j : Nat} {a b : Entry μ} (hij : i < j)
    (ha : entries[i]? = some a) (hb : entries[j]? = some b) : a.id < b.id := by
  obtain ⟨hi, rfl⟩ := Array.getElem?_eq_some_iff.1 ha
  obtain ⟨hj, rfl⟩ := Array.getElem?_eq_some_iff.1 hb
  exact List.pairwise_iff_getElem.1 h i j hi hj hij

/-- What halving keeps about the part of `size` entries from `base` on. -/
structure Between (entries : Array (Entry μ)) (id : UInt32) (base size : Nat) : Prop where
  first : base = 0 ∨ ∃ e, entries[base]? = some e ∧ e.id ≤ id
  behind : ∀ i e, base + size ≤ i → entries[i]? = some e → id < e.id

/-- Halving ends at one entry that still has both. -/
theorem bisect_between (hsorted : Sorted entries) {base size : Nat} (hpos : 0 < size)
    (hsize : base + size ≤ entries.size) (h : Between entries id base size) :
    Between entries id (bisect entries id base size) 1 := by
  fun_induction bisect entries id base size with
  | case1 base size hle =>
    obtain rfl : size = 1 := by omega
    exact h
  | case2 base size hgt half middle above ih =>
    have hmiddle : middle < entries.size := by omega
    have hget : entries[middle]? = some entries[middle] := Array.getElem?_eq_getElem hmiddle
    have habove : above = decide (id < entries[middle].id) := by
      simp [above, hget]
    by_cases hlt : id < entries[middle].id
    · rw [decide_eq_true hlt] at habove
      simp only [habove, dite_true, if_true] at ih ⊢
      refine ih (by omega) (by omega) ⟨h.first, fun i e hi he => ?_⟩
      -- The part ends at or behind the middle.
      rcases Nat.eq_or_lt_of_le (show middle ≤ i by omega) with rfl | hmi
      · cases hget.symm.trans he
        exact hlt
      · exact UInt32.lt_trans hlt (hsorted.lt hmi hget he)
    · rw [decide_eq_false hlt] at habove
      simp only [habove, Bool.false_eq_true, dite_false, if_false] at ih ⊢
      refine ih (by omega) (by omega) ⟨.inr ⟨_, hget, UInt32.not_lt.1 hlt⟩, fun i e hi he => ?_⟩
      exact h.behind i e (by omega) he

/-- What is found has the identifier, also where the entries are not sorted. -/
theorem mem_of_get? {r : Registry μ} {e : Entry μ} (h : r.get? id = some e) :
    e ∈ r.entries ∧ e.id = id := by
  obtain ⟨he, hid⟩ := Option.filter_eq_some_iff.1 h
  exact ⟨Array.mem_of_getElem? he, eq_of_beq hid⟩

/-- In a sorted registry, an entry is found by its identifier. -/
theorem get?_eq_some_iff {r : Registry μ} (hsorted : Sorted r.entries) {e : Entry μ} :
    r.get? id = some e ↔ e ∈ r.entries ∧ e.id = id := by
  refine ⟨mem_of_get?, fun ⟨he, hid⟩ => Option.filter_eq_some_iff.2 ⟨?_, beq_iff_eq.2 hid⟩⟩
  obtain ⟨i, hi⟩ := Array.getElem?_of_mem he
  have hlt := (Array.getElem?_eq_some_iff.1 hi).1
  have hbetween : Between r.entries id 0 r.entries.size :=
    ⟨.inl rfl, fun j e' hj he' => by have := (Array.getElem?_eq_some_iff.1 he').1; omega⟩
  have hend := bisect_between hsorted (by omega) (by omega) hbetween
  generalize bisect r.entries id 0 r.entries.size = j at hend
  -- The entry is neither behind the end of the search nor in front of it.
  rcases Nat.lt_trichotomy i j with hij | rfl | hij
  · rcases hend.first with rfl | ⟨e', he', hle⟩
    · omega
    · have := hsorted.lt hij hi he'
      rw [hid] at this
      exact absurd this (UInt32.not_lt.2 hle)
  · exact hi
  · have := hend.behind i e (by omega) hi
    rw [hid] at this
    exact absurd this (UInt32.lt_irrefl _)

/-- Halving a sorted table finds what a search through all of it finds. -/
theorem get?_eq_find? {r : Registry μ} (hsorted : Sorted r.entries) (id : UInt32) :
    r.get? id = r.entries.toList.find? (·.id == id) := by
  cases hfind : r.entries.toList.find? (·.id == id) with
  | some e =>
    exact (get?_eq_some_iff hsorted).2
      ⟨Array.mem_toList_iff.1 (List.mem_of_find?_eq_some hfind),
        eq_of_beq (List.find?_some hfind :)⟩
  | none =>
    cases hget : r.get? id with
    | none => rfl
    | some e =>
      obtain ⟨he, hid⟩ := (get?_eq_some_iff hsorted).1 hget
      exact absurd (beq_iff_eq.2 hid) (List.find?_eq_none.1 hfind e (Array.mem_toList_iff.2 he))

/-- An entry is read under its identifier. -/
theorem decode_of_mem {r : Registry μ} (hsorted : Sorted r.entries) {e : Entry μ}
    (he : e ∈ r.entries) : r.decode e.id = e.decode.mapError .decode := by
  rw [decode, (get?_eq_some_iff hsorted).2 ⟨he, rfl⟩]

/-- A frame has an unknown identifier exactly if no entry is found for it. -/
theorem decodeFrame_eq_unknownId_iff {r : Registry μ} {payload : ByteArray} :
    r.decodeFrame id payload = .error (.error (.unknownId id)) ↔ r.get? id = none := by
  rw [decodeFrame, decode, Reader.result_eq_error_iff]
  cases r.get? id with
  | none => exact iff_of_true ⟨_, rfl⟩ rfl
  | some e =>
    refine iff_of_false ?_ (Option.some_ne_none e)
    rintro ⟨c, h⟩
    obtain ⟨stop, -, hstop⟩ := Reader.mapError_eq_error_iff.1 h
    cases stop <;> cases hstop

end WireSchema.Registry
