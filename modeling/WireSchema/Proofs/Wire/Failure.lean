import WireSchema.Proofs.Wire.Steady

/-!
# Errors tell where reading failed

An error of decoding tells a position and, where bytes are missing, how many were asked for and how
many there are. What it tells fits the place where reading began (`DecodeError.ReportedFrom`): the
position is not in front of that place and not behind the end of the data, and more was asked for
than there is.

`Reader.Fails` says in which ways a reader can fail from a cursor that has a number of bytes behind
it. The number matters to readers whose bound on the nesting depends on it. The readers of the wire
layer, whatever is behind them, fail with reported errors only (`Reports`). In particular they never
ask for an empty slice past the end: a length is read in front of every slice, and where a length
could be read the cursor is inside of the data.
-/

namespace WireSchema

/-! ## What errors tell -/

/-- The position that an error tells. -/
def DecodeError.offset : DecodeError → Nat
  | truncated offset _ _ | lengthOverrun offset _ _ | invalidBool offset _ | invalidUtf8 offset =>
    offset

/-- Where bytes are missing, more were asked for than there are. -/
def DecodeError.AsksForMore : DecodeError → Prop
  | truncated _ needed remaining | lengthOverrun _ needed remaining => remaining < needed
  | invalidBool _ _ | invalidUtf8 _ => True

/-- What the error tells fits a reader that began at the cursor. -/
structure DecodeError.ReportedFrom (c : Cursor) (e : DecodeError) : Prop where
  le_offset : c.index ≤ e.offset
  offset_le : e.offset ≤ max c.index c.data.size
  asks : e.AsksForMore

namespace DecodeError

variable {c c' : Cursor} {e : DecodeError}

/-- An error of a later part of a run is one of the whole run. -/
theorem ReportedFrom.back (h : e.ReportedFrom c') (hmoves : c.Moves c') : e.ReportedFrom c where
  le_offset := Nat.le_trans hmoves.le h.le_offset
  offset_le := by
    have hle := h.offset_le
    have hmax := hmoves.le_max
    rw [hmoves.data_eq] at hle
    omega
  asks := h.asks

theorem reportedFrom_of_offset_eq (hoffset : e.offset = c.index) (h : e.AsksForMore) :
    e.ReportedFrom c :=
  ⟨Nat.le_of_eq hoffset.symm, hoffset ▸ Nat.le_max_left _ _, h⟩

end DecodeError

/-- The stop is an error of decoding that was reported from the cursor, as `g` takes it over. -/
inductive Reports {ε : Type} (g : DecodeError → ε) (c : Cursor) : Stop ε → Prop
  | error {e : DecodeError} (h : e.ReportedFrom c) : Reports g c (.error (g e))

/-- An error further on is one that is reported from here. -/
theorem Reports.back {ε : Type} {g : DecodeError → ε} {c c' : Cursor} {s : Stop ε}
    (hmoves : c.Moves c') (h : Reports g c' s) : Reports g c s := by
  cases h with
  | error h => exact .error (h.back hmoves)

/-! ## The law -/

namespace Reader

variable {ε ε' α β : Type}

/-- From a cursor with at most `n` bytes behind it, the reader fails as `p` says. -/
def Fails (n : Nat) (p : Cursor → Stop ε → Prop) (r : Reader ε α) : Prop :=
  ∀ ⦃c : Cursor⦄ ⦃s : Stop ε⦄ ⦃c' : Cursor⦄, c.remaining ≤ n → r c = .error s c' → p c s

variable {n : Nat} {p p' : Cursor → Stop ε → Prop} {r : Reader ε α} {f : α → Reader ε β}

theorem Fails.mono (h : r.Fails n p) (hp : ∀ c s, p c s → p' c s) : r.Fails n p' :=
  fun _ _ _ hc hs => hp _ _ (h hc hs)

theorem fails_pure (a : α) : (pure a : Reader ε α).Fails n p :=
  fun _ _ _ _ h => nomatch h

/-- A failure of the second reader counts from where the first one began. -/
theorem Fails.bind (hback : ∀ ⦃c c' : Cursor⦄ ⦃s : Stop ε⦄, c.Moves c' → p c' s → p c s)
    (hr : r.Fails n p) (hmoves : r.Forward) (hf : ∀ a, (f a).Fails n p) : (r >>= f).Fails n p := by
  intro c s c'' hc h
  rcases Run.bind_eq_error_iff.1 h with hs | ⟨a, c', ha, hs⟩
  · exact hr hc hs
  · have hstep := hmoves.ok ha
    exact hback hstep (hf a (Nat.le_trans hstep.remaining_le hc) hs)

theorem Fails.map (hr : r.Fails n p) (g : α → β) : (g <$> r).Fails n p := by
  intro c s c' hc h
  rw [map_eq_pure_bind] at h
  rcases Run.bind_eq_error_iff.1 h with hs | ⟨a, c', -, hs⟩
  · exact hr hc hs
  · cases hs

/-- A repeated reader fails as it does once, at or behind the start. -/
theorem Fails.times (hback : ∀ ⦃c c' : Cursor⦄ ⦃s : Stop ε⦄, c.Moves c' → p c' s → p c s)
    (hr : r.Fails n p) (hmoves : r.Forward) (k : Nat) : (r.times k).Fails n p := by
  induction k with
  | zero => exact fails_pure []
  | succ k ih =>
    rw [times_succ]
    exact hr.bind hback hmoves fun _ => ih.map _

/-- The error is passed on in the form that the caller gives it. -/
theorem Fails.mapError {g : DecodeError → ε} {r : Reader DecodeError α}
    (h : r.Fails n (Reports id)) : (r.mapError g).Fails n (Reports g) := by
  intro c s c' hc hs
  obtain ⟨s', hs', rfl⟩ := mapError_eq_error_iff.1 hs
  cases h hc hs' with
  | error he => exact .error he

end Reader

/-! ## Readers of the wire layer -/

open Reader

variable {n : Nat}

/-- Bytes are missing, unless none are asked for. -/
theorem readBytes_fails {k : Nat} (hk : 0 < k) : (readBytes k).Fails n (Reports id) := by
  intro c s c' _ h
  rw [readBytes_apply] at h
  split at h
  · next hrem =>
    cases h
    exact .error (e := .truncated _ _ _) (DecodeError.reportedFrom_of_offset_eq rfl hrem)
  · next hrem =>
    rw [Cursor.remaining] at hrem
    rw [if_neg (by omega)] at h
    cases h

theorem readUInt_fails (w : Width) : (readUInt w).Fails n (Reports id) :=
  (readBytes_fails w.bytes_pos).map _

theorem readInt_fails (w : Width) : (readInt w).Fails n (Reports id) :=
  (readBytes_fails w.bytes_pos).map _

/-- An integer takes the bytes of its width. -/
theorem readUInt_spans {w : Width} {k : Nat} {c c' : Cursor} (h : readUInt w c = .ok k c') :
    ∃ e, e.size = w.bytes ∧ Spans c e c' := by
  obtain ⟨b, c₁, hb, h⟩ := Run.bind_eq_ok_iff.1 h
  cases h
  exact ⟨b, readBytes_eq_ok_iff.1 hb⟩

theorem readBool_fails : readBool.Fails n (Reports id) := by
  intro c s c' hc h
  rw [readBool, Run.get_bind] at h
  rcases Run.bind_eq_error_iff.1 h with hs | ⟨byte, c₁, -, hs⟩
  · exact (readUInt_fails .w8).map _ hc hs
  · split at hs
    · cases hs
    · split at hs
      · cases hs
      · cases hs
        exact .error (e := .invalidBool _ _) (DecodeError.reportedFrom_of_offset_eq rfl trivial)

/-- A text fails for its length, for its bytes, or for what they are, and says where. -/
theorem readString_fails : readString.Fails n (Reports id) := by
  intro c s c' hc h
  rw [readString_apply] at h
  rcases Run.bind_eq_error_iff.1 h with hs | ⟨len, c₁, hlen, hs⟩
  · exact readUInt_fails .w32 hc hs
  · rw [Run.get_bind] at hs
    split at hs
    · next hrem =>
      cases hs
      exact .error (e := .lengthOverrun _ _ _) (DecodeError.reportedFrom_of_offset_eq rfl hrem)
    · next hrem =>
      rcases Run.bind_eq_error_iff.1 hs with hs | ⟨bytes, c₂, -, hs⟩
      · -- The length was read, so the cursor is inside of the data, and so is the text.
        obtain ⟨e, -, hspan⟩ := readUInt_spans hlen
        rw [readBytes_apply, if_neg hrem, if_neg (Nat.not_lt.2 hspan.end_le)] at hs
        cases hs
      · cases htext : String.fromUTF8? bytes with
        | some t =>
          rw [htext] at hs
          cases hs
        | none =>
          rw [htext] at hs
          cases hs
          exact .error (e := .invalidUtf8 _) (DecodeError.reportedFrom_of_offset_eq rfl trivial)

theorem readCount_fails (minSize : Nat) : (readCount minSize).Fails n (Reports id) := by
  intro c s c' hc h
  rw [readCount, Run.get_bind] at h
  rcases Run.bind_eq_error_iff.1 h with hs | ⟨count, c₁, -, hs⟩
  · exact readUInt_fails .w32 hc hs
  · rw [Run.get_bind] at hs
    split at hs
    · next hrem =>
      cases hs
      exact .error (e := .lengthOverrun _ _ _) (DecodeError.reportedFrom_of_offset_eq rfl hrem)
    · cases hs

/-- A count takes four bytes. -/
theorem readCount_remaining {minSize k : Nat} {c c' : Cursor} (h : readCount minSize c = .ok k c') :
    c.remaining = 4 + c'.remaining := by
  obtain ⟨e, hsize, hspan⟩ := readUInt_spans (readCount_eq_ok_iff.1 h).1
  rw [hspan.remaining_eq, hsize]
  rfl

end WireSchema
