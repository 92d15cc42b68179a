import Mathlib.Algebra.GroupWithZero.Nat
import Mathlib.Algebra.Order.BigOperators.Group.List
import Mathlib.Algebra.Order.Group.Nat
import Mathlib.Order.Bounds.Basic
import WireSchema.Proofs.Value.Conformance

/-!
# Least sizes are exact

`Schema.minSize` says how many bytes a value of a kind takes at least, in counts that stop at the
largest one. It is the true minimum, cut off once (`minSize_eq_least`): sums and products that are
cut off on the way lose nothing below the limit.

The true minimum of a kind is the least of its sizes (`Schema.sizes`). It is made of those of the
parts, one lemma for each sort of kind. Messages are followed by name, in the order of inline
nesting (`exists_isLeast_named`).
-/

namespace WireSchema

open WireSchema.Number

/-- The numbers of bytes that the values of a kind take. -/
def Schema.sizes (s : Schema) (kind : Kind) : Set Nat :=
  {n | ∃ v e, Encodes s kind v e ∧ e.size = n}

/-- The sizes of a kind are what its values append. -/
theorem setOf_appended_eq (s : Schema) (kind : Kind) :
    {n | ∃ (v : Value) (b b' : ByteArray),
      v.encodeField s kind b = .ok () b' ∧ b'.size = b.size + n} = s.sizes kind := by
  ext n
  simp only [encodeField_eq_ok_iff]
  refine ⟨?_, ?_⟩
  · rintro ⟨v, b, _, ⟨e, he, rfl⟩, hn⟩
    rw [ByteArray.size_append] at hn
    exact ⟨v, e, he, by omega⟩
  · rintro ⟨v, e, he, rfl⟩
    exact ⟨v, .empty, _, ⟨e, he, rfl⟩, ByteArray.size_append⟩

variable {s : Schema} {kind element : Kind}

/-! ## Parts -/

/-- Joined bytes are as many as there are in all parts. -/
theorem size_joinBytes (parts : List ByteArray) :
    (joinBytes parts).size = (parts.map ByteArray.size).sum := by
  induction parts with
  | nil => rfl
  | cons part parts ih =>
    rw [joinBytes_cons, ByteArray.size_append, ih, List.map_cons, List.sum_cons]

/-- A primitive value has no form shorter than the least size, and one of that size. -/
theorem isLeast_primitive (p : Primitive) : IsLeast (s.sizes (.primitive p)) p.minSize := by
  refine ⟨?_, ?_⟩
  · cases p with
    | int t =>
      have hzero : t.min ≤ 0 ∧ 0 ≤ t.max := by
        obtain ⟨signed, w⟩ := t
        cases signed <;> cases w <;> decide
      exact ⟨.int 0, _, .integer (z := 0) (by decide) hzero, by simp [Primitive.minSize]⟩
    | single => exact ⟨.float ⟨0⟩, _, .single (.inr ⟨⟨0⟩, by decide⟩), by simp [Primitive.minSize]⟩
    | double => exact ⟨.float ⟨0⟩, _, .double _, by simp [Primitive.minSize]⟩
    | bool => exact ⟨.bool false, _, .bool _, by simp [Primitive.minSize]⟩
    | string => exact ⟨.string "", _, .string (by decide), by simp [Primitive.minSize]⟩
  · rintro _ ⟨v, e, he, rfl⟩
    cases he <;> simp [Primitive.minSize]

/-- The least counted array is the empty one, with its count. -/
theorem isLeast_counted (element : Kind) : IsLeast (s.sizes (.array element .counted)) 4 := by
  have hnone : ∀ v ∈ ([] : List Value), Encodes s element v .empty := by simp
  refine ⟨⟨.array [], _, .counted (Nat.zero_le _) hnone, rfl⟩, ?_⟩
  rintro _ ⟨v, e, he, rfl⟩
  cases he
  simp

/-- The least fixed array has the least elements. -/
theorem isLeast_fixed {least : Nat} (h : IsLeast (s.sizes element) least) (n : Nat) :
    IsLeast (s.sizes (.array element (.fixed n))) (n * least) := by
  refine ⟨?_, ?_⟩
  · obtain ⟨v, e, he, rfl⟩ := h.1
    have hitems : ∀ w ∈ List.replicate n v, Encodes s element w e := by
      intro w hw
      rw [List.eq_of_mem_replicate hw]
      exact he
    refine ⟨.array (List.replicate n v), _, .fixed List.length_replicate hitems, ?_⟩
    simp [size_joinBytes]
  · rintro _ ⟨v, e, he, rfl⟩
    cases he with
    | @fixed _ _ items part hlen hitems =>
      have hparts : ∀ k ∈ (items.map part).map ByteArray.size, least ≤ k := by
        simp only [List.forall_mem_map]
        exact fun v hv => h.2 ⟨v, _, hitems v hv, rfl⟩
      have hsum := List.card_nsmul_le_sum _ least hparts
      rw [size_joinBytes, ← hlen]
      simpa using hsum

/-- All values of an enum have its width. -/
theorem isLeast_enumeration {name : String} {t : Enumeration}
    (ht : s.resolve? name = some (.enumeration t)) :
    IsLeast (s.sizes (.named name)) t.wireWidth.bytes := by
  refine ⟨⟨.enumeration t.name 0, _, .enumeration ht (Nat.zero_le _), by simp⟩, ?_⟩
  rintro _ ⟨v, e, he, rfl⟩
  cases he with
  | enumeration ht' _ =>
    cases ht.symm.trans ht'
    simp
  | message hm _ _ => cases ht.symm.trans hm

/-- The least message has the least fields. -/
theorem isLeast_message {name : String} {m : Message} {least : Field → Nat}
    (hm : s.resolve? name = some (.message m))
    (h : ∀ f ∈ m.fields, IsLeast (s.sizes f.kind) (least f)) :
    IsLeast (s.sizes (.named name)) (m.fields.map least).sum := by
  refine ⟨?_, ?_⟩
  · -- A message of the smallest values of its fields.
    have : Nonempty Value := ⟨.bool false⟩
    choose! value part hpart using fun f hf => (h f hf).1
    have hnodup : ((m.fields.map fun f => (f.name, value f)).map Prod.fst).Nodup := by
      rw [List.map_map]
      exact Schema.nodup_fields (Schema.mem_of_resolve? hm).1
    have hlookup : ∀ f ∈ m.fields,
        (m.fields.map fun f => (f.name, value f)).lookup f.name = some (value f) :=
      fun f hf => lookup_of_mem hnodup (List.mem_map_of_mem hf)
    have hencodes : Encodes s (.named name)
        (.message m.name (m.fields.map fun f => (f.name, value f)))
        (joinBytes (m.fields.map part)) := by
      refine .message hm (fun f hf => ?_) fun f hf v hv => ?_
      · rw [hlookup f hf]
        rfl
      · cases (hlookup f hf).symm.trans hv
        exact (hpart f hf).1
    refine ⟨_, _, hencodes, ?_⟩
    rw [size_joinBytes, List.map_map]
    exact congrArg List.sum (List.map_congr_left fun f hf => (hpart f hf).2)
  · -- Any message has a value for each field, and none of them is smaller than the least.
    rintro _ ⟨v, e, he, rfl⟩
    cases he with
    | enumeration ht _ => cases hm.symm.trans ht
    | @message _ _ values part hm' hall hvalues =>
      cases hm.symm.trans hm'
      rw [size_joinBytes, List.map_map]
      refine List.sum_le_sum fun f hf => ?_
      obtain ⟨v, hv⟩ := Option.isSome_iff_exists.1 (hall f hf)
      exact (h f hf).2 ⟨v, _, hvalues f hf v hv, rfl⟩

/-! ## Cutting off -/

theorem Width.bytes_le_sizeLimit (w : Width) : w.bytes ≤ sizeLimit := by
  cases w <;> decide

/-- A sum that is cut off at each step is cut off once. -/
theorem foldl_sizeAdd_min {size least : Field → Nat} {fields : List Field}
    (h : ∀ f ∈ fields, size f = min (least f) sizeLimit) (n : Nat) :
    fields.foldl (fun n f => sizeAdd n (size f)) (min n sizeLimit) =
      min (n + (fields.map least).sum) sizeLimit := by
  induction fields generalizing n with
  | nil => simp
  | cons f fields ih =>
    obtain ⟨hf, hfields⟩ := List.forall_mem_cons.1 h
    rw [List.foldl_cons, hf, sizeAdd_min, ih hfields, List.map_cons, List.sum_cons, Nat.add_assoc]

/-- The size of a kind is the least one, cut off once, if those of the names that it stores are. -/
theorem exists_isLeast_kind {named : String → Nat} (hkind : s.Knows kind)
    (hnamed : ∀ name, kind.Stores name → s.model.Defines name →
      ∃ n, IsLeast (s.sizes (.named name)) n ∧ named name = min n sizeLimit) :
    ∃ n, IsLeast (s.sizes kind) n ∧ kind.minSize named = min n sizeLimit := by
  induction kind with
  | primitive p =>
    have hle : p.minSize ≤ sizeLimit := by
      cases p with
      | int t => exact t.width.bytes_le_sizeLimit
      | single | double | bool | string => decide
    exact ⟨_, isLeast_primitive p, (Nat.min_eq_left hle).symm⟩
  | array element len ih =>
    cases len with
    | counted => exact ⟨4, isLeast_counted element, rfl⟩
    | fixed n =>
      obtain ⟨least, hleast, hsize⟩ := ih hkind fun name hname => hnamed name (.fixed n hname)
      exact ⟨n * least, isLeast_fixed hleast n, by rw [Kind.minSize, hsize, sizeMul_min]⟩
  | named name => exact hnamed name (.named name) hkind.defines
  | unsupported text => exact absurd hkind Schema.not_knows_unsupported

/-- The size of a named kind is the least one, cut off once, if the depth is above the rank. -/
theorem exists_isLeast_named {rank : String → Nat} (hrank : s.IsRanking rank) {depth : Nat}
    {name : String} (hdefines : s.model.Defines name) (hpos : 0 < depth)
    (hdepth : ∀ m, s.resolve? name = some (.message m) → rank m.name + 1 < depth) :
    ∃ n, IsLeast (s.sizes (.named name)) n ∧
      s.model.nameMinSize depth name = min n sizeLimit := by
  induction depth generalizing name with
  | zero => exact absurd hpos (Nat.lt_irrefl 0)
  | succ depth ih =>
    cases hresolve : s.resolve? name with
    | none => exact absurd hresolve (Schema.resolve?_isSome hdefines)
    | some t =>
      rw [Model.nameMinSize, show s.model.resolve? name = some t from hresolve]
      cases t with
      | enumeration t =>
        have hle := t.wireWidth.bytes_le_sizeLimit
        exact ⟨_, isLeast_enumeration hresolve, (Nat.min_eq_left hle).symm⟩
      | message m =>
        obtain ⟨hm, -⟩ := Schema.mem_of_resolve? hresolve
        have hlt := hdepth m hresolve
        have hfields : ∀ f ∈ m.fields, ∃ n, IsLeast (s.sizes f.kind) n ∧
            f.kind.minSize (s.model.nameMinSize depth) = min n sizeLimit := by
          intro f hf
          refine exists_isLeast_kind (Schema.knows_of_mem hm hf) fun name' hstores hdefines' => ?_
          refine ih hdefines' (by omega) fun b hb => ?_
          -- What a field stores has a lower rank than its message.
          obtain ⟨hbmem, rfl⟩ := Schema.mem_of_resolve? hb
          have := hrank.down m hm b hbmem f hf hstores
          omega
        choose! least hleast using hfields
        refine ⟨_, isLeast_message hresolve fun f hf => (hleast f hf).1, ?_⟩
        have hfold := foldl_sizeAdd_min (fun f hf => (hleast f hf).2) 0
        rwa [Nat.zero_min, Nat.zero_add] at hfold

/-- The least size of a kind of known types is the true one, cut off at the limit: all values that
    a field of the kind takes append at least so many bytes, and some value appends the true
    minimum. -/
theorem minSize_eq_least (s : Schema) {kind : Kind} (hkind : s.Knows kind) :
    (∀ (v : Value) b b', v.encodeField s kind b = .ok () b' → b.size + s.minSize kind ≤ b'.size) ∧
    ∃ least, IsLeast {n | ∃ (v : Value) (b b' : ByteArray),
        v.encodeField s kind b = .ok () b' ∧ b'.size = b.size + n} least ∧
      s.minSize kind = min least (Nat.pow 2 64 - 1) := by
  obtain ⟨rank, hrank⟩ := s.exists_isRanking
  obtain ⟨least, hleast, hsize⟩ := exists_isLeast_kind hkind fun name _ hdefines =>
    exists_isLeast_named hrank hdefines (Nat.succ_pos s.messages.length) fun m hm =>
      Nat.succ_lt_succ (hrank.lt m (Schema.mem_of_resolve? hm).1)
  refine ⟨fun v b b' h => ?_, least, setOf_appended_eq s kind ▸ hleast, hsize⟩
  obtain ⟨e, he, rfl⟩ := encodeField_eq_ok_iff.1 h
  have hle : least ≤ e.size := hleast.2 ⟨v, e, he, rfl⟩
  have hmin : s.minSize kind ≤ least := Nat.le_trans (Nat.le_of_eq hsize) (Nat.min_le_left _ _)
  rw [ByteArray.size_append]
  omega

/-- Players in a square array of `n` rows. -/
def playerSquare (n : Nat) : Kind :=
  .array (.array (.named "PlayerState") (.fixed n)) (.fixed n)

/-- A player takes 27 bytes and more. Four of them are below the limit, and with `2 ^ 32` rows the
    limit is all that is left of the true minimum. -/
theorem minSize_eq_least_playerSquare :
    IsLeast {n | ∃ (v : Value) (b b' : ByteArray),
      v.encodeField Game.schema (playerSquare 2) b = .ok () b' ∧ b'.size = b.size + n} 108 ∧
    ∃ least, IsLeast {n | ∃ (v : Value) (b b' : ByteArray),
        v.encodeField Game.schema (playerSquare 4294967296) b = .ok () b' ∧
          b'.size = b.size + n} least ∧
      18446744073709551615 = min least (Nat.pow 2 64 - 1) := by
  have hplayer : Game.schema.model.Defines "PlayerState" := .inl (by decide)
  have hknows : ∀ n, Game.schema.Knows (playerSquare n) := fun n => .inr ⟨_, rfl, hplayer⟩
  obtain ⟨-, least, hleast, hmin⟩ := minSize_eq_least Game.schema (hknows 2)
  obtain ⟨-, least', hleast', hmin'⟩ := minSize_eq_least Game.schema (hknows 4294967296)
  have hfour : Game.schema.minSize (playerSquare 2) = 108 := by decide +kernel
  have hmany : Game.schema.minSize (playerSquare 4294967296) = 18446744073709551615 := by
    decide +kernel
  have hexact : least = 108 := by
    rw [hfour, show Nat.pow 2 64 - 1 = 18446744073709551615 from rfl] at hmin
    omega
  exact ⟨hexact ▸ hleast, least', hleast', hmany ▸ hmin'⟩

end WireSchema
