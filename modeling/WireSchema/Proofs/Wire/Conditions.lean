import Mathlib.Tactic.Choose
import WireSchema.Proofs.Wire.Recovers

/-!
# When writers succeed

A writer *needs* a condition (`Writer.Needs`) when it appends and succeeds exactly if the condition
holds. Under the law of appending nothing written before can make a writer fail, so the condition of
several writers one after the other is that of each of them, and what they write is what each of
them writes, joined (`Writer.writes_writeAll_iff`). Which sorts of errors there are is said writer
by writer too (`Writer.FailsWith`).
-/

namespace WireSchema

/-- Bytes one behind the other. -/
def joinBytes (parts : List ByteArray) : ByteArray :=
  parts.foldr (· ++ ·) .empty

theorem joinBytes_cons (part : ByteArray) (parts : List ByteArray) :
    joinBytes (part :: parts) = part ++ joinBytes parts := rfl

namespace Writer

variable {ε α : Type} {w w' : Writer ε Unit} {P Q : Prop}

/-- The writer appends, and it succeeds exactly if the condition holds. -/
structure Needs (w : Writer ε Unit) (P : Prop) : Prop where
  appends : w.Appends
  writes_iff : (∃ e, w.Writes e) ↔ P

theorem Needs.congr (h : w.Needs P) (hPQ : P ↔ Q) : w.Needs Q :=
  ⟨h.appends, h.writes_iff.trans hPQ⟩

theorem Writes.needs {e : ByteArray} (h : w.Writes e) : w.Needs True :=
  ⟨h.appends, iff_true_intro ⟨e, h⟩⟩

/-- Two writers in a row need what both need. -/
theorem Needs.bind (h : w.Needs P) (h' : w'.Needs Q) : (do w; w').Needs (P ∧ Q) := by
  refine ⟨h.appends.bind h'.appends, ?_⟩
  rw [← h.writes_iff, ← h'.writes_iff]
  simp only [writes_bind_iff h.appends h'.appends]
  refine ⟨?_, ?_⟩
  · rintro ⟨_, e, e', he, he', -⟩
    exact ⟨⟨e, he⟩, e', he'⟩
  · rintro ⟨⟨e, he⟩, e', he'⟩
    exact ⟨_, e, e', he, he', rfl⟩

/-- Taking back what was written does not change what is needed. -/
theorem Needs.allOrNothing (h : w.Needs P) : w.allOrNothing.Needs P := by
  refine ⟨h.appends.allOrNothing, ?_⟩
  simp only [writes_allOrNothing_iff]
  exact h.writes_iff

/-- Writing items needs what each of them needs. -/
theorem needs_writeAll {write : α → Writer ε Unit} {P : α → Prop} {as : List α}
    (h : ∀ a ∈ as, (write a).Needs (P a)) : (writeAll write as).Needs (∀ a ∈ as, P a) := by
  induction as with
  | nil => exact writes_pure.needs.congr (by simp)
  | cons a as ih =>
    obtain ⟨ha, has⟩ := List.forall_mem_cons.1 h
    exact (ha.bind (ih has)).congr List.forall_mem_cons.symm

/-- The bytes of items are those of each of them, joined. -/
theorem writes_writeAll {write : α → Writer ε Unit} {part : α → ByteArray} {as : List α}
    (h : ∀ a ∈ as, (write a).Writes (part a)) :
    (writeAll write as).Writes (joinBytes (as.map part)) := by
  induction as with
  | nil => exact writes_pure
  | cons a as ih =>
    obtain ⟨ha, has⟩ := List.forall_mem_cons.1 h
    exact ha.bind (ih has)

/-- What is written one after the other is what each element writes, joined. -/
theorem writes_writeAll_iff {write : α → Writer ε Unit} {as : List α}
    (happends : ∀ a ∈ as, (write a).Appends) {e : ByteArray} :
    (writeAll write as).Writes e ↔
      ∃ part : α → ByteArray, (∀ a ∈ as, (write a).Writes (part a)) ∧
        e = joinBytes (as.map part) := by
  refine ⟨fun h => ?_, ?_⟩
  · have hneeds : (writeAll write as).Needs (∀ a ∈ as, ∃ e, (write a).Writes e) :=
      needs_writeAll fun a ha => ⟨happends a ha, Iff.rfl⟩
    choose! part hpart using hneeds.writes_iff.1 ⟨e, h⟩
    exact ⟨part, hpart, h.unique (writes_writeAll hpart)⟩
  · rintro ⟨part, hpart, rfl⟩
    exact writes_writeAll hpart

/-- What a writer makes of nothing is bytes or an error, as the condition says. -/
theorem Needs.toBytes_isError_iff (h : w.Needs P) : (∃ err, w.toBytes = .error err) ↔ ¬P := by
  rw [← h.writes_iff]
  simp only [← h.appends.toBytes_eq_ok_iff]
  cases w.toBytes <;> simp

/-! ### Errors -/

section

variable {ε' : Type} {P : ε → Prop}

/-- If the writer fails, then with an error of the given sort. -/
def FailsWith (w : Writer ε Unit) (P : ε → Prop) : Prop :=
  ∀ ⦃b : ByteArray⦄ ⦃err : ε⦄ ⦃b' : ByteArray⦄, w b = .error err b' → P err

theorem failsWith_throw {err : ε} (h : P err) : (throw err : Writer ε Unit).FailsWith P := by
  intro b err' b' hrun
  cases hrun
  exact h

theorem Writes.failsWith {e : ByteArray} (h : w.Writes e) : w.FailsWith P := by
  intro b err b' hrun
  rw [h b] at hrun
  cases hrun

theorem failsWith_mapError {g : ε' → ε} (h : ∀ err, P (g err)) (w : Writer ε' Unit) :
    (w.mapError g).FailsWith P := by
  intro b err b' hrun
  rw [Writer.mapError] at hrun
  split at hrun
  · cases hrun
  · cases hrun
    exact h _

/-- Two writers in a row fail as either does. -/
theorem FailsWith.bind (h : w.FailsWith P) (h' : w'.FailsWith P) : (do w; w').FailsWith P := by
  intro b err b' hrun
  rcases Run.bind_eq_error_iff.1 hrun with hfirst | ⟨_, b₁, -, hsecond⟩
  · exact h hfirst
  · exact h' hsecond

/-- Writing items fails as one of them does. -/
theorem failsWith_writeAll {write : α → Writer ε Unit} {as : List α}
    (h : ∀ a ∈ as, (write a).FailsWith P) : (writeAll write as).FailsWith P := by
  induction as with
  | nil => exact writes_pure.failsWith
  | cons a as ih =>
    obtain ⟨ha, has⟩ := List.forall_mem_cons.1 h
    exact ha.bind (ih has)

theorem FailsWith.allOrNothing (h : w.FailsWith P) : w.allOrNothing.FailsWith P := by
  intro b err b' hrun
  rw [Writer.allOrNothing] at hrun
  split at hrun
  · cases hrun
  · next hw =>
    cases hrun
    exact h hw

end

end Writer

open Writer

/-! ## Writers of the wire layer -/

theorem writeLen_needs (n : Nat) : (writeLen n).Needs (n ≤ Width.w32.unsignedMax) :=
  ⟨writeLen_appends n, by simp [writeLen_writes_iff]⟩

theorem writeString_needs (t : String) :
    (writeString t).Needs (t.utf8ByteSize ≤ Width.w32.unsignedMax) :=
  ⟨writeString_appends t, by simp [writeString_writes_iff]⟩

theorem needs_writeSeq {α : Type} {write : α → Writer EncodeError Unit} {P : α → Prop}
    {as : List α} (h : ∀ a ∈ as, (write a).Needs (P a)) :
    (writeSeq write as).Needs (as.length ≤ Width.w32.unsignedMax ∧ ∀ a ∈ as, P a) :=
  (writeLen_needs _).bind (needs_writeAll h)

/-! ## Enums -/

/-- The members of an enum are told apart by their integers, and these fit the width of the enum. -/
structure WireEnum.Exact (α : Type) [WireEnum α] : Prop where
  ofValue?_toValue : ∀ a : α, WireEnum.ofValue? (WireEnum.toValue a) = some a
  toValue_le : ∀ a : α, (WireEnum.toValue a).toNat ≤ (WireEnum.width α).unsignedMax

namespace OpenEnum

variable {α : Type}

theorem forall_unknown_iff {vs : List (OpenEnum α)} {P : UInt64 → Prop} :
    (∀ v ∈ vs, ∀ raw, v = .unknown raw → P raw) ↔ ∀ raw, .unknown raw ∈ vs → P raw := by
  refine ⟨fun h raw hraw => h _ hraw raw rfl, ?_⟩
  rintro h _ hv raw rfl
  exact h raw hv

variable [WireEnum α]

/-- If the member is not declared, its integer fits the width of the enum. -/
def Fits (v : OpenEnum α) : Prop :=
  ∀ raw, v = .unknown raw → raw.toNat ≤ (WireEnum.width α).unsignedMax

/-- If the member is not declared, its integer belongs to no member. -/
def Undeclared (v : OpenEnum α) : Prop :=
  ∀ raw, v = .unknown raw → (WireEnum.ofValue? raw : Option α) = none

/-- An enum can be written if its integer fits the width. -/
theorem write_needs (hα : WireEnum.Exact α) (v : OpenEnum α) : v.write.Needs v.Fits := by
  refine ⟨writeUInt_appends _ _, ?_⟩
  simp only [write, writeUInt_writes_iff, exists_and_left, exists_eq, and_true]
  cases v with
  | known a => simpa [Fits, OpenEnum.raw] using hα.toValue_le a
  | unknown raw => simp [Fits, OpenEnum.raw]

/-- What is read is what was written, if nothing was called unknown that is declared. -/
theorem settle_eq (hα : WireEnum.Exact α) {v : OpenEnum α} (h : v.Undeclared) : v.settle = v := by
  cases v with
  | known a => rw [settle, OpenEnum.raw, ofRaw, hα.ofValue?_toValue]
  | unknown raw => rw [settle, OpenEnum.raw, ofRaw, h raw rfl]

end OpenEnum

end WireSchema
