import WireSchema.Proofs.Wire.Forms
import WireSchema.Proofs.Wire.Writer
import WireSchema.Wire.OpenEnum

/-!
# Readers that recover what was written

A reader *recovers* a value from a writer (`Reader.Recovers`) when it takes all that the writer
writes as that value. The law is put together like readers and writers are: part by part, in the
same order on both sides. Readers of nested data have a bound on the depth, and so the law has a
bound on the size of what is written.

An enum is recovered with its integer only: an integer that belongs to a member is read as the
member, whatever it was written from (`OpenEnum.settle`).
-/

namespace WireSchema

open Writer

/-- Parts that all have a least size add up. -/
theorem Concat.length_mul_le {α : Type} {form : α → ByteArray → Prop} {k : Nat}
    (hform : ∀ a e, form a e → k ≤ e.size) {as : List α} {e : ByteArray} (h : Concat form as e) :
    as.length * k ≤ e.size := by
  induction h with
  | nil => simp
  | cons ha _ ih =>
    have := hform _ _ ha
    rw [List.length_cons, Nat.succ_mul, ByteArray.size_append]
    omega

namespace Reader

variable {ε ε' ε'' α β γ : Type} {n : Nat}

/-- The reader takes what the writer writes, if it is smaller than `n`, as the value `a`. -/
structure Recovers (n : Nat) (r : Reader ε α) (a : α) (w : Writer ε' Unit) : Prop where
  appends : w.Appends
  accepts : ∀ ⦃e : ByteArray⦄, w.Writes e → e.size < n → r.Accepts a e

variable {r : Reader ε α} {a : α} {w : Writer ε' Unit}

/-- A reader recovers a value from the bytes that are written for it. -/
theorem recovers_of_writes {e : ByteArray} (hr : r.Accepts a e) (hw : w.Writes e) :
    r.Recovers n a w := by
  refine ⟨hw.appends, fun e' hw' _ => ?_⟩
  rwa [← hw.unique hw']

/-! ### Sequencing -/

theorem recovers_pure (a : α) : (pure a : Reader ε α).Recovers n a (pure () : Writer ε' Unit) :=
  recovers_of_writes (accepts_pure a) writes_pure

/-- Two readers in a row recover what two writers in a row write. -/
theorem Recovers.bind {f : α → Reader ε β} {b : β} {w' : Writer ε' Unit} (h : r.Recovers n a w)
    (h' : (f a).Recovers n b w') : (r >>= f).Recovers n b (do w; w') := by
  refine ⟨h.appends.bind h'.appends, fun e he hsize => ?_⟩
  obtain ⟨e₁, e₂, h₁, h₂, rfl⟩ := (writes_bind_iff h.appends h'.appends).1 he
  rw [ByteArray.size_append] at hsize
  exact (h.accepts h₁ (by omega)).bind (h'.accepts h₂ (by omega))

theorem Recovers.map (h : r.Recovers n a w) (g : α → β) : (g <$> r).Recovers n (g a) w :=
  ⟨h.appends, fun _ he hsize => (h.accepts he hsize).map g⟩

/-- The last part needs nothing written behind it. -/
theorem Recovers.last {g : α → β} (h : r.Recovers n a w) :
    (r >>= fun a => pure (g a)).Recovers n (g a) w := by
  rw [← map_eq_pure_bind]
  exact h.map g

theorem Recovers.mapError (h : r.Recovers n a w) (g : ε → ε'') :
    (r.mapError g).Recovers n a w :=
  ⟨h.appends, fun _ he hsize => (h.accepts he hsize).mapError g⟩

theorem Recovers.allOrNothing (h : r.Recovers n a w) : r.Recovers n a w.allOrNothing :=
  ⟨h.appends.allOrNothing, fun _ he hsize => h.accepts (writes_allOrNothing_iff.1 he) hsize⟩

/-! ### Repetition -/

section

variable {write : γ → Writer ε' Unit} {g : γ → α} {as : List γ}

theorem appends_writeAll (h : ∀ a ∈ as, (write a).Appends) : (writeAll write as).Appends := by
  induction as with
  | nil => exact appends_pure
  | cons a as ih =>
    obtain ⟨ha, has⟩ := List.forall_mem_cons.1 h
    exact ha.bind (ih has)

/-- What is written one after the other is made of parts that the reader accepts. -/
theorem concat_of_writeAll (h : ∀ a ∈ as, r.Recovers n (g a) (write a)) {e : ByteArray}
    (he : (writeAll write as).Writes e) (hsize : e.size < n) :
    Concat (fun a e => r.Accepts a e) (as.map g) e := by
  induction as generalizing e with
  | nil =>
    rw [writeAll, writes_pure_iff] at he
    rw [he]
    exact .nil
  | cons a as ih =>
    obtain ⟨ha, has⟩ := List.forall_mem_cons.1 h
    have hrest := appends_writeAll fun a h => (has a h).appends
    obtain ⟨e₁, e₂, h₁, h₂, rfl⟩ := (writes_bind_iff ha.appends hrest).1 he
    rw [ByteArray.size_append] at hsize
    exact .cons (ha.accepts h₁ (by omega)) (ih has h₂ (by omega))

/-- An array of a fixed length is recovered item by item. -/
theorem recovers_readArray_map {k : Nat} {as : Vector γ k}
    (h : ∀ a ∈ as.toList, r.Recovers n (g a) (write a)) :
    (readArray r k).Recovers n (as.map g) (writeAll write as.toList) := by
  refine ⟨appends_writeAll fun a ha => (h a ha).appends, fun e he hsize c c' hspan => ?_⟩
  -- A vector is read as the list of its elements, which determines it.
  have htimes := accepts_times (concat_of_writeAll h he hsize) hspan
  rw [List.length_map, Vector.length_toList, ← toList_readArray] at htimes
  obtain ⟨bs, hbs, heq⟩ := Run.map_eq_ok_iff.1 htimes
  rw [← Vector.toList_map, Vector.toList_inj] at heq
  rwa [← heq]

theorem recovers_readArray {write : α → Writer ε' Unit} {k : Nat} {as : Vector α k}
    (h : ∀ a ∈ as.toList, r.Recovers n a (write a)) :
    (readArray r k).Recovers n as (writeAll write as.toList) := by
  have hmap := recovers_readArray_map (g := id) h
  rwa [Vector.map_id] at hmap

end

/-- A sequence, whose reader asks for no more than its elements take. The elements have less room
    than the sequence, which has a count in front of them. -/
theorem recovers_readSeq_map {r : Reader DecodeError α} {write : γ → Writer EncodeError Unit}
    {g : γ → α} {as : List γ} {k : Nat} (hr : ∀ a e, r.Accepts a e → k ≤ e.size) (hk : 0 < k)
    (h : ∀ a ∈ as, r.Recovers (n - 1) (g a) (write a)) :
    (readSeq k r).Recovers n (as.map g) (writeSeq write as) := by
  have hitems := appends_writeAll fun a ha => (h a ha).appends
  refine ⟨(writeLen_appends _).bind hitems, fun e he hsize c c' hspan => ?_⟩
  obtain ⟨_, e₂, h₁, h₂, rfl⟩ := (writes_bind_iff (writeLen_appends _) hitems).1 he
  obtain ⟨hlen, rfl⟩ := writeLen_writes_iff.1 h₁
  rw [ByteArray.size_append, List.size_toByteArray, leBytes_length] at hsize
  -- The elements take at least the bytes that their count claims, so the count is let through.
  have hconcat := concat_of_writeAll h h₂ (by omega)
  have hclaim := hconcat.length_mul_le hr
  rw [List.length_map, ← Nat.max_eq_left hk] at hclaim
  obtain ⟨c₁, hspan₁, hspan₂⟩ := hspan.split
  rw [readSeq, Run.bind_of_ok (readCount_of_spans hlen hspan₁ hspan₂ hclaim)]
  have htimes := accepts_times hconcat hspan₂
  rwa [List.length_map] at htimes

/-- A counted sequence is recovered if each item takes bytes, so that its count is not refused. -/
theorem recovers_readSeq {r : Reader DecodeError α} {write : α → Writer EncodeError Unit}
    {as : List α} {k : Nat} (hr : ∀ a e, r.Accepts a e → k ≤ e.size) (hk : 0 < k)
    (h : ∀ a ∈ as, r.Recovers (n - 1) a (write a)) :
    (readSeq k r).Recovers n as (writeSeq write as) := by
  have hmap := recovers_readSeq_map (g := id) hr hk h
  rwa [List.map_id] at hmap

end Reader

open Reader

/-! ## Readers and writers of the wire layer -/

variable {ε α : Type} {n : Nat}

theorem readBool_recovers (b : Bool) : readBool.Recovers n b (writeBool b : Writer ε Unit) :=
  recovers_of_writes (readBool_accepts b) (by cases b <;> exact writeBytes_writes _)

theorem readString_recovers (t : String) : readString.Recovers n t (writeString t) := by
  refine ⟨writeString_appends t, fun e he _ => ?_⟩
  obtain ⟨hlen, rfl⟩ := writeString_writes_iff.1 he
  exact readString_accepts hlen

/-- An enum value as it is read: a member where the integer belongs to one. -/
def OpenEnum.settle [WireEnum α] (v : OpenEnum α) : OpenEnum α :=
  ofRaw v.raw

/-- An enum is recovered settled: a number that is declared comes back as its member. -/
theorem OpenEnum.read_recovers [WireEnum α] (v : OpenEnum α) :
    (OpenEnum.read α).Recovers n v.settle v.write := by
  refine ⟨writeUInt_appends _ _, fun e he _ => ?_⟩
  obtain ⟨hle, rfl⟩ := writeUInt_writes_iff.1 he
  have hread := (readUInt_accepts hle).map fun raw => (ofRaw raw.toUInt64 : OpenEnum α)
  rw [map_eq_pure_bind, Nat.toUInt64_eq, UInt64.ofNat_toNat] at hread
  exact hread

end WireSchema
