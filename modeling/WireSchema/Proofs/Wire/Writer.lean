import WireSchema.Proofs.Wire.Bytes
import WireSchema.Proofs.Wire.Run

/-!
# What writers append

A writer *appends* (`Writer.Appends`) when what it does hangs on nothing written before: it succeeds
with the same bytes behind any others, or fails with the same error behind any others. All writers
of the project do. It *writes* the bytes `e` (`Writer.Writes`) when it succeeds with them.

Under the first law the second is compositional: two writers one after the other write exactly what
the first and the second write (`Writer.writes_bind_iff`).
-/

namespace WireSchema

open WireSchema.Number

namespace Writer

variable {ε ε' : Type}

/-- The outcome and the bytes appended are the same behind any bytes. -/
inductive Appends (w : Writer ε Unit) : Prop
  | ok (e : ByteArray) : (∀ b, w b = .ok () (b ++ e)) → Appends w
  | error (err : ε) (e : ByteArray) : (∀ b, w b = .error err (b ++ e)) → Appends w

/-- The writer succeeds and appends the bytes `e`. -/
def Writes (w : Writer ε Unit) (e : ByteArray) : Prop :=
  ∀ b, w b = .ok () (b ++ e)

variable {w w' : Writer ε Unit} {e e' b b' : ByteArray}

theorem Writes.appends (h : w.Writes e) : w.Appends := .ok e h

/-- A writer has one form. -/
theorem Writes.unique (h : w.Writes e) (h' : w.Writes e') : e = e' := by
  have := (h .empty).symm.trans (h' .empty)
  simpa using this

/-- One run of a writer that appends tells all others. -/
theorem Appends.ok_iff (h : w.Appends) : w b = .ok () b' ↔ ∃ e, w.Writes e ∧ b' = b ++ e := by
  refine ⟨fun hb => ?_, ?_⟩
  · cases h with
    | ok e he =>
      rw [he b] at hb
      cases hb
      exact ⟨e, he, rfl⟩
    | error err e he =>
      rw [he b] at hb
      cases hb
  · rintro ⟨e, he, rfl⟩
    exact he b

/-- The bytes of a writer are those it adds. -/
theorem Appends.toBytes_eq_ok_iff (h : w.Appends) : w.toBytes = .ok e ↔ w.Writes e := by
  rw [toBytes]
  cases h with
  | ok e' he =>
    rw [he]
    refine ⟨fun h' => ?_, fun h' => ?_⟩
    · cases h'
      rwa [ByteArray.empty_append]
    · rw [ByteArray.empty_append, Writes.unique he h']
  | error err e' he =>
    rw [he]
    refine ⟨fun h' => (nomatch h'), fun h' => ?_⟩
    have := (he .empty).symm.trans (h' .empty)
    cases this

/-! ### Sequencing -/

theorem writes_pure : (pure () : Writer ε Unit).Writes .empty := fun b => by
  rw [ByteArray.append_empty]
  rfl

theorem writes_pure_iff : (pure () : Writer ε Unit).Writes e ↔ e = .empty :=
  ⟨fun h => h.unique writes_pure, fun h => h ▸ writes_pure⟩

theorem appends_pure : (pure () : Writer ε Unit).Appends := writes_pure.appends

theorem appends_throw (err : ε) : (throw err : Writer ε Unit).Appends :=
  .error err .empty fun b => by
    rw [ByteArray.append_empty]
    rfl

theorem not_writes_throw (err : ε) : ¬(throw err : Writer ε Unit).Writes e :=
  fun h => nomatch h .empty

/-- Two writers in a row add the bytes of both. -/
theorem Writes.bind (h : w.Writes e) (h' : w'.Writes e') : (do w; w').Writes (e ++ e') := by
  intro b
  rw [Run.bind_of_ok (h b), h', ByteArray.append_assoc]

theorem Appends.bind (h : w.Appends) (h' : w'.Appends) : (do w; w').Appends := by
  cases h with
  | ok e he =>
    cases h' with
    | ok e' he' => exact (Writes.bind he he').appends
    | error err e' he' =>
      refine .error err (e ++ e') fun b => ?_
      rw [Run.bind_of_ok (he b), he', ByteArray.append_assoc]
  | error err e he => exact .error err e fun b => Run.bind_of_error (he b) _

/-- What two writers in a row add is split between them. -/
theorem writes_bind_iff (h : w.Appends) (h' : w'.Appends) :
    (do w; w').Writes e ↔ ∃ e₁ e₂, w.Writes e₁ ∧ w'.Writes e₂ ∧ e = e₁ ++ e₂ := by
  refine ⟨fun hw => ?_, ?_⟩
  · obtain ⟨_, b₁, h₁, h₂⟩ := Run.bind_eq_ok_iff.1 (hw .empty)
    obtain ⟨e₁, he₁, rfl⟩ := h.ok_iff.1 h₁
    obtain ⟨e₂, he₂, -⟩ := h'.ok_iff.1 h₂
    exact ⟨e₁, e₂, he₁, he₂, hw.unique (he₁.bind he₂)⟩
  · rintro ⟨e₁, e₂, he₁, he₂, rfl⟩
    exact he₁.bind he₂

/-! ### Errors of another type -/

theorem mapError_of_ok {g : ε → ε'} (h : w b = .ok () b') : w.mapError g b = .ok () b' := by
  rw [mapError, h]

theorem mapError_of_error {g : ε → ε'} {err : ε} (h : w b = .error err b') :
    w.mapError g b = .error (g err) b' := by
  rw [mapError, h]

theorem Appends.mapError (h : w.Appends) (g : ε → ε') : (w.mapError g).Appends := by
  cases h with
  | ok e he => exact .ok e fun b => mapError_of_ok (he b)
  | error err e he => exact .error (g err) e fun b => mapError_of_error (he b)

theorem writes_mapError_iff (g : ε → ε') : (w.mapError g).Writes e ↔ w.Writes e := by
  refine ⟨fun h b => ?_, fun h b => mapError_of_ok (h b)⟩
  have hb := h b
  cases hw : w b with
  | ok _ b' =>
    rw [mapError_of_ok hw] at hb
    cases hb
    rfl
  | error err b' =>
    rw [mapError_of_error hw] at hb
    cases hb

/-! ### Writers that end alike -/

/-- The writer fails with an error, whatever was written before. -/
def Fails (w : Writer ε Unit) (err : ε) : Prop :=
  ∀ b, ∃ b', w b = .error err b'

/-- Two writers append the same bytes or fail with the same error, up to the types of their errors.
    What they leave behind when they fail may differ. -/
inductive Alike (g : ε → ε') (w : Writer ε Unit) (w' : Writer ε' Unit) : Prop
  | ok (e : ByteArray) : w.Writes e → w'.Writes e → Alike g w w'
  | error (err : ε) : w.Fails err → w'.Fails (g err) → Alike g w w'

/-- A failure ends the writing. -/
theorem Fails.bind {err : ε} (h : w.Fails err) (w' : Writer ε Unit) : (do w; w').Fails err := by
  intro b
  obtain ⟨b', hb⟩ := h b
  exact ⟨b', Run.bind_of_error hb _⟩

/-- A later failure is one of the whole. -/
theorem Writes.bind_fails {err : ε} (h : w.Writes e) (h' : w'.Fails err) :
    (do w; w').Fails err := by
  intro b
  rw [Run.bind_of_ok (h b)]
  exact h' _

theorem Writes.allOrNothing (h : w.Writes e) : w.allOrNothing.Writes e := by
  intro b
  rw [Writer.allOrNothing, h b]

/-- Taking back what was written on failure does not change what is written on success. -/
theorem writes_allOrNothing_iff : w.allOrNothing.Writes e ↔ w.Writes e := by
  refine ⟨fun h b => ?_, Writes.allOrNothing⟩
  have hb := h b
  rw [Writer.allOrNothing] at hb
  cases hw : w b with
  | ok _ b' =>
    rw [hw] at hb
    exact hb
  | error err b' =>
    rw [hw] at hb
    cases hb

/-- A writer that fails has only appended, so cutting back leaves what was there. -/
theorem Appends.allOrNothing (h : w.Appends) : w.allOrNothing.Appends := by
  cases h with
  | ok e he => exact (Writes.allOrNothing he).appends
  | error err e he =>
    refine .error err .empty fun b => ?_
    rw [Writer.allOrNothing, he b, ByteArray.append_empty]
    exact congrArg _ (ByteArray.extract_append_eq_left rfl)

/-- The writer appends the same bytes behind any others, or fails and leaves what was there. -/
inductive Atomic (w : Writer ε Unit) : Prop
  | ok (e : ByteArray) : (∀ b, w b = .ok () (b ++ e)) → Atomic w
  | error (err : ε) : (∀ b, w b = .error err b) → Atomic w

theorem atomic_pure : (pure () : Writer ε Unit).Atomic := .ok .empty writes_pure

/-- A writer that cuts back appends nothing when it fails: behind no bytes at all it leaves none,
    and it appends the same behind any others. -/
theorem Appends.atomic (h : w.allOrNothing.Appends) : w.allOrNothing.Atomic := by
  cases h with
  | ok e he => exact .ok e he
  | error err e he =>
    have hnone : e = .empty := by
      have hrun := he .empty
      rw [Writer.allOrNothing, ByteArray.empty_append] at hrun
      cases hw : w .empty with
      | ok _ b => simp [hw] at hrun
      | error err' b =>
        simp only [hw, EStateM.Result.error.injEq] at hrun
        rw [← hrun.2, ByteArray.size_empty, ByteArray.extract_same]
    refine .error err fun b => ?_
    rw [he b, hnone, ByteArray.append_empty]

theorem Fails.allOrNothing {err : ε} (h : w.Fails err) : w.allOrNothing.Fails err := by
  intro b
  obtain ⟨b', hb⟩ := h b
  rw [Writer.allOrNothing, hb]
  exact ⟨_, rfl⟩

theorem Appends.alike_mapError (h : w.Appends) (g : ε → ε') : Alike g w (w.mapError g) := by
  cases h with
  | ok e he => exact .ok e he ((writes_mapError_iff g).2 he)
  | error err e he =>
    exact .error err (fun b => ⟨_, he b⟩) fun b => ⟨_, mapError_of_error (he b)⟩

namespace Alike

variable {g : ε → ε'} {v v' : Writer ε' Unit}

theorem bind (h : Alike g w v) (h' : Alike g w' v') : Alike g (do w; w') (do v; v') := by
  cases h with
  | ok e he hv =>
    cases h' with
    | ok e' he' hv' => exact .ok _ (he.bind he') (hv.bind hv')
    | error err he' hv' => exact .error err (he.bind_fails he') (hv.bind_fails hv')
  | error err he hv => exact .error err (he.bind _) (hv.bind _)

theorem allOrNothing (h : Alike g w v) : Alike g w.allOrNothing v := by
  cases h with
  | ok e he hv => exact .ok e he.allOrNothing hv
  | error err he hv => exact .error err he.allOrNothing hv

/-- Writers that are alike give the same bytes or the same error. -/
theorem toBytes_eq (h : Alike g w v) : v.toBytes = w.toBytes.mapError g := by
  rw [toBytes, toBytes]
  cases h with
  | ok e he hv =>
    rw [he, hv]
    rfl
  | error err he hv =>
    obtain ⟨b, hb⟩ := he .empty
    obtain ⟨b', hb'⟩ := hv .empty
    rw [hb, hb']
    rfl

end Alike

end Writer

open Writer

/-! ## Writers of the wire layer -/

section

variable {ε : Type} {e : ByteArray}

theorem writeBytes_writes (bytes : ByteArray) : (writeBytes bytes : Writer ε Unit).Writes bytes :=
  fun _ => rfl

theorem writeBytes_writes_iff {bytes : ByteArray} :
    (writeBytes bytes : Writer ε Unit).Writes e ↔ e = bytes :=
  ⟨fun h => h.unique (writeBytes_writes bytes), fun h => h ▸ writeBytes_writes bytes⟩

theorem writeUInt_appends (w : Width) (n : Nat) : (writeUInt w n).Appends := by
  rw [writeUInt]
  split
  · exact appends_throw _
  · exact (writeBytes_writes _).appends

/-- An unsigned integer is written in its bytes if it fits the width. -/
theorem writeUInt_writes_iff {w : Width} {n : Nat} :
    (writeUInt w n).Writes e ↔ n ≤ w.unsignedMax ∧ e = (leBytes w.bytes n).toByteArray := by
  rw [writeUInt]
  split
  · next h => exact iff_of_false (not_writes_throw _) fun h' => absurd h'.1 (Nat.not_le.2 h)
  · next h => rw [writeBytes_writes_iff, and_iff_right (Nat.le_of_not_lt h)]

theorem writeInt_appends (w : Width) (n : Int) : (writeInt w n).Appends := by
  rw [writeInt]
  split
  · exact appends_throw _
  · exact (writeBytes_writes _).appends

/-- A signed integer is written in its bytes if it fits the width. -/
theorem writeInt_writes_iff {w : Width} {n : Int} :
    (writeInt w n).Writes e ↔
      (w.signedMin ≤ n ∧ n ≤ w.signedMax) ∧ e = (leBytesInt w.bytes n).toByteArray := by
  rw [writeInt]
  split
  · next h =>
    simp only [Bool.or_eq_true, decide_eq_true_eq] at h
    exact iff_of_false (not_writes_throw _) fun h' => by omega
  · next h =>
    simp only [Bool.or_eq_true, decide_eq_true_eq] at h
    rw [writeBytes_writes_iff, and_iff_right (by omega)]

theorem writeLen_appends (n : Nat) : (writeLen n).Appends := by
  rw [writeLen]
  split
  · exact appends_throw _
  · exact (writeBytes_writes _).appends

theorem writeLen_writes_iff {n : Nat} :
    (writeLen n).Writes e ↔ n ≤ Width.w32.unsignedMax ∧ e = (leBytes 4 n).toByteArray := by
  rw [writeLen]
  split
  · next h => exact iff_of_false (not_writes_throw _) fun h' => absurd h'.1 (Nat.not_le.2 h)
  · next h => rw [writeBytes_writes_iff, and_iff_right (Nat.le_of_not_lt h)]

theorem writeString_appends (s : String) : (writeString s).Appends :=
  (writeLen_appends _).bind (writeBytes_writes _).appends

/-- A text is written as its length and its encoding, if the length fits. -/
theorem writeString_writes_iff {s : String} :
    (writeString s).Writes e ↔ s.utf8ByteSize ≤ Width.w32.unsignedMax ∧
      e = (leBytes 4 s.utf8ByteSize).toByteArray ++ s.toUTF8 := by
  rw [writeString, writes_bind_iff (writeLen_appends _) (writeBytes_writes _).appends]
  simp only [writeLen_writes_iff, writeBytes_writes_iff]
  refine ⟨?_, fun h => ⟨_, _, ⟨h.1, rfl⟩, rfl, h.2⟩⟩
  rintro ⟨_, _, ⟨h, rfl⟩, rfl, rfl⟩
  exact ⟨h, rfl⟩

end

end WireSchema
