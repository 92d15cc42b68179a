import WireSchema.Proofs.Wire.Forms
import WireSchema.Wire.OpenEnum

/-!
# Readers look only at what they go over

A reader goes forward over its data and never beyond the end (`Cursor.Moves`), whether it succeeds
or fails. What it does hangs on the bytes that it goes over, and on how many there are behind them
only in one way: it can ask for more than there are. So on data that is at least as long and has
the same bytes up to the end of a run (`Agrees`), the run is the same, unless it failed because the
data is *short* (`Reader.Steady`).

The law passes through sequencing and repetition. Two patterns look at the cursor itself: a reader
that keeps the index for its errors (`Reader.steady_get`), and one that asks for a number of
bytes before it goes on (`Reader.steady_demand`).
-/

namespace WireSchema

/-! ## Cursors that go forward -/

/-- The cursor went forward over the same data. It stops at the end of the data, and does not move
    if it was past the end already. -/
structure Cursor.Moves (c c' : Cursor) : Prop where
  data_eq : c'.data = c.data
  le : c.index ≤ c'.index
  le_max : c'.index ≤ max c.index c.data.size

namespace Cursor.Moves

variable {c c' c'' : Cursor}

theorem refl (c : Cursor) : c.Moves c :=
  ⟨rfl, Nat.le_refl _, Nat.le_max_left _ _⟩

theorem trans (h : c.Moves c') (h' : c'.Moves c'') : c.Moves c'' := by
  have hle := h.le_max
  have hle' := h'.le_max
  rw [h.data_eq] at hle'
  exact ⟨h'.data_eq.trans h.data_eq, Nat.le_trans h.le h'.le, by omega⟩

theorem remaining_le (h : c.Moves c') : c'.remaining ≤ c.remaining := by
  have := h.le
  rw [Cursor.remaining, Cursor.remaining, h.data_eq]
  omega

end Cursor.Moves

/-- Going over bytes moves the cursor forward. -/
theorem Spans.moves {c c' : Cursor} {e : ByteArray} (h : Spans c e c') : c.Moves c' := by
  have := h.index_eq
  have := h.le_size
  exact ⟨h.data_eq, by omega, by omega⟩

/-! ## Data that agrees -/

/-- The data `d'` is at least as long as `d` and has the same bytes in front of `j`. -/
structure Agrees (d d' : ByteArray) (j : Nat) : Prop where
  size_le : d.size ≤ d'.size
  extract_eq : d'.extract 0 j = d.extract 0 j

namespace Agrees

variable {d d' : ByteArray} {i j : Nat}

theorem mono (h : Agrees d d' j) (hij : i ≤ j) : Agrees d d' i := by
  have hcut := congrArg (·.extract 0 i) h.extract_eq
  simp only [ByteArray.extract_extract, Nat.zero_add, Nat.min_eq_left hij] at hcut
  exact ⟨h.size_le, hcut⟩

/-- The front of data agrees with it. -/
theorem extract (d : ByteArray) {n : Nat} (hj : j ≤ n) : Agrees (d.extract 0 n) d j := by
  refine ⟨?_, ?_⟩
  · rw [ByteArray.size_extract]
    omega
  · rw [ByteArray.extract_extract, Nat.zero_add, Nat.zero_add, Nat.min_eq_left hj]

/-- Data cannot agree with longer data beyond its own end. -/
theorem size_lt (h : Agrees d d' j) (hj : d.size < j) : d'.size < j := by
  have hsize := congrArg ByteArray.size h.extract_eq
  rw [ByteArray.size_extract, ByteArray.size_extract] at hsize
  omega

end Agrees

/-- A stretch of data is found again in data that agrees up to its end. -/
theorem Spans.of_agrees {c c' : Cursor} {e d : ByteArray} (h : Spans c e c')
    (hd : Agrees c.data d c'.index) : Spans ⟨d, c.index⟩ e ⟨d, c'.index⟩ where
  data_eq := rfl
  index_eq := h.index_eq
  le_size := Nat.le_trans h.le_size hd.size_le
  extract_eq := by
    have hcut := congrArg (·.extract c.index c'.index) hd.extract_eq
    simp only [ByteArray.extract_extract, Nat.zero_add, Nat.min_self] at hcut
    exact hcut.trans h.extract_eq

/-! ## Errors about missing bytes -/

/-- Does the error say that bytes are missing? -/
def DecodeError.isShort : DecodeError → Bool
  | truncated _ _ _ | lengthOverrun _ _ _ => true
  | invalidBool _ _ | invalidUtf8 _ => false

/-- Is the stop an error that is short? -/
def Stop.isShort {ε : Type} (short : ε → Bool) : Stop ε → Bool
  | error e => short e
  | fault | exhausted => false

theorem Stop.isShort_map {ε ε' : Type} {short : ε → Bool} {short' : ε' → Bool} {g : ε → ε'}
    (h : ∀ e, short' (g e) = short e) (s : Stop ε) :
    (s.map g).isShort short' = s.isShort short := by
  cases s with
  | error e => exact h e
  | fault | exhausted => rfl

/-- Only an error can say that bytes are missing. -/
theorem Stop.exists_of_isShort {ε : Type} {short : ε → Bool} {s : Stop ε}
    (h : s.isShort short = true) : ∃ e, s = .error e ∧ short e = true := by
  cases s with
  | error e => exact ⟨e, rfl, h⟩
  | fault | exhausted => cases h

/-! ## The law -/

namespace Reader

variable {ε ε' α β : Type}

/-- The cursor goes forward, also when the reader fails. -/
structure Forward (r : Reader ε α) : Prop where
  ok : ∀ ⦃c : Cursor⦄ ⦃a : α⦄ ⦃c' : Cursor⦄, r c = .ok a c' → c.Moves c'
  error : ∀ ⦃c : Cursor⦄ ⦃s : Stop ε⦄ ⦃c' : Cursor⦄, r c = .error s c' → c.Moves c'

/-- The reader goes forward, and does the same on data that agrees up to where it stopped, unless it
    stopped because the data is short. -/
structure Steady (short : ε → Bool) (r : Reader ε α) : Prop extends Forward r where
  ok_agrees : ∀ ⦃c : Cursor⦄ ⦃a : α⦄ ⦃c' : Cursor⦄ ⦃d : ByteArray⦄, r c = .ok a c' →
    Agrees c.data d c'.index → r ⟨d, c.index⟩ = .ok a ⟨d, c'.index⟩
  error_agrees : ∀ ⦃c : Cursor⦄ ⦃s : Stop ε⦄ ⦃c' : Cursor⦄ ⦃d : ByteArray⦄, r c = .error s c' →
    s.isShort short = false → Agrees c.data d c'.index → r ⟨d, c.index⟩ = .error s ⟨d, c'.index⟩

variable {short : ε → Bool} {r : Reader ε α} {f : α → Reader ε β}

/-! ### Sequencing -/

theorem steady_pure (a : α) : (pure a : Reader ε α).Steady short where
  ok := by
    intro c b c' h
    cases h
    exact .refl c
  error := fun _ _ _ h => nomatch h
  ok_agrees := by
    intro c b c' d h _
    cases h
    rfl
  error_agrees := fun _ _ _ _ h => nomatch h

theorem steady_throw (s : Stop ε) : (throw s : Reader ε α).Steady short where
  ok := fun _ _ _ h => nomatch h
  error := by
    intro c s' c' h
    cases h
    exact .refl c
  ok_agrees := fun _ _ _ _ h => nomatch h
  error_agrees := by
    intro c s' c' d h _ _
    cases h
    rfl

theorem Forward.bind (hr : r.Forward) (hf : ∀ a, (f a).Forward) : (r >>= f).Forward where
  ok := by
    intro c b c'' h
    obtain ⟨a, c', ha, hb⟩ := Run.bind_eq_ok_iff.1 h
    exact (hr.ok ha).trans ((hf a).ok hb)
  error := by
    intro c s c'' h
    rcases Run.bind_eq_error_iff.1 h with hs | ⟨a, c', ha, hs⟩
    · exact hr.error hs
    · exact (hr.ok ha).trans ((hf a).error hs)

/-- Where two readers agree up to the end of the second, the first agrees up to its own end. -/
theorem Steady.bind (hr : r.Steady short) (hf : ∀ a, (f a).Steady short) :
    (r >>= f).Steady short where
  toForward := hr.toForward.bind fun a => (hf a).toForward
  ok_agrees := by
    intro c b c'' d h hd
    obtain ⟨a, c', ha, hb⟩ := Run.bind_eq_ok_iff.1 h
    rw [Run.bind_of_ok (hr.ok_agrees ha (hd.mono ((hf a).ok hb).le))]
    rw [← (hr.ok ha).data_eq] at hd
    exact (hf a).ok_agrees hb hd
  error_agrees := by
    intro c s c'' d h hs hd
    rcases Run.bind_eq_error_iff.1 h with ha | ⟨a, c', ha, hb⟩
    · exact Run.bind_of_error (hr.error_agrees ha hs hd) _
    · rw [Run.bind_of_ok (hr.ok_agrees ha (hd.mono ((hf a).error hb).le))]
      rw [← (hr.ok ha).data_eq] at hd
      exact (hf a).error_agrees hb hs hd

theorem Steady.map (hr : r.Steady short) (g : α → β) : (g <$> r).Steady short := by
  rw [map_eq_pure_bind]
  exact hr.bind fun _ => steady_pure _

theorem Steady.mapError (hr : r.Steady short) {short' : ε' → Bool} {g : ε → ε'}
    (hg : ∀ e, short' (g e) = short e) : (r.mapError g).Steady short' where
  ok := fun _ _ _ h => hr.ok (mapError_eq_ok_iff.1 h)
  error := by
    intro c s c' h
    obtain ⟨s', hs', -⟩ := mapError_eq_error_iff.1 h
    exact hr.error hs'
  ok_agrees := fun _ _ _ _ h hd => mapError_of_ok (hr.ok_agrees (mapError_eq_ok_iff.1 h) hd)
  error_agrees := by
    intro c s c' d h hs hd
    obtain ⟨s', hs', rfl⟩ := mapError_eq_error_iff.1 h
    rw [Stop.isShort_map hg] at hs
    exact mapError_of_error (hr.error_agrees hs' hs hd)

/-! ### Repetition -/

/-- A repeated reader is steady if it is so once. -/
theorem Steady.times (hr : r.Steady short) (n : Nat) : (r.times n).Steady short := by
  induction n with
  | zero => exact steady_pure []
  | succ n ih =>
    rw [times_succ]
    exact hr.bind fun _ => ih.map _

theorem Steady.readArray (hr : r.Steady short) (n : Nat) : (readArray r n).Steady short := by
  induction n with
  | zero => exact steady_pure _
  | succ n ih => exact ih.bind fun _ => hr.bind fun _ => steady_pure _

/-! ### Looking at the cursor -/

/-- A reader may keep the index, which is the same on other data. -/
theorem steady_get {f : Cursor → Reader ε α} (hindex : ∀ c d, f ⟨d, c.index⟩ = f c)
    (hf : ∀ c, (f c).Steady short) : (get >>= f : Reader ε α).Steady short where
  ok := fun c _ _ h => (hf c).ok h
  error := fun c _ _ h => (hf c).error h
  ok_agrees := by
    intro c a c' d h hd
    rw [Run.get_bind, hindex]
    exact (hf c).ok_agrees h hd
  error_agrees := by
    intro c s c' d h hs hd
    rw [Run.get_bind, hindex]
    exact (hf c).error_agrees h hs hd

/-- A reader may ask for bytes before it goes on. What longer data still refuses is refused as
    short. -/
theorem steady_demand {need : Nat} {e : Cursor → ε} (he : ∀ c, short (e c) = true)
    {next : Reader ε α} (hnext : next.Steady short) :
    (get >>= fun c => if c.remaining < need then Reader.fail (e c) else next :
      Reader ε α).Steady short := by
  have hrefused : ∀ {c : Cursor}, c.remaining < need →
      (get >>= fun c => if c.remaining < need then Reader.fail (e c) else next : Reader ε α) c =
        .error (.error (e c)) c := by
    intro c h
    rw [Run.get_bind, if_pos h]
    rfl
  have hgoes : ∀ {c : Cursor}, ¬c.remaining < need →
      (get >>= fun c => if c.remaining < need then Reader.fail (e c) else next : Reader ε α) c =
        next c := by
    intro c h
    rw [Run.get_bind, if_neg h]
  -- Data that agrees is at least as long, so what was enough stays enough.
  have hlonger : ∀ {c : Cursor} {d : ByteArray} {j : Nat}, Agrees c.data d j →
      ¬c.remaining < need → ¬(Cursor.mk d c.index).remaining < need := by
    intro c d j hd h
    have := hd.size_le
    rw [Cursor.remaining] at h ⊢
    dsimp only
    omega
  refine ⟨⟨fun c a c' h => ?_, fun c s c' h => ?_⟩, fun c a c' d h hd => ?_,
    fun c s c' d h hs hd => ?_⟩
  -- Each of the four parts is about a cursor with too little behind it or about one with enough.
  all_goals by_cases hneed : c.remaining < need
  · rw [hrefused hneed] at h
    cases h
  · rw [hgoes hneed] at h
    exact hnext.ok h
  · rw [hrefused hneed] at h
    cases h
    exact .refl c
  · rw [hgoes hneed] at h
    exact hnext.error h
  · rw [hrefused hneed] at h
    cases h
  · rw [hgoes hneed] at h
    rw [hgoes (hlonger hd hneed)]
    exact hnext.ok_agrees h hd
  · rw [hrefused hneed] at h
    cases h
    rw [Stop.isShort, he] at hs
    cases hs
  · rw [hgoes hneed] at h
    rw [hgoes (hlonger hd hneed)]
    exact hnext.error_agrees h hs hd

/-! ### Cutting off the end -/

/-- Of bytes that are read as a whole, no front is enough, and the reader says so. -/
theorem Steady.error_of_cut (hr : r.Steady short) {a : α} {e : ByteArray} (ha : r.Accepts a e)
    {n : Nat} (hn : n < e.size) :
    ∃ s c, r (.start (e.extract 0 n)) = .error s c ∧ s.isShort short = true := by
  have hwhole : r ⟨e, 0⟩ = .ok a ⟨e, e.size⟩ := ha (.whole e)
  -- Up to where it stops, the front has the bytes of the whole.
  have hagrees : ∀ {c : Cursor}, (Cursor.start (e.extract 0 n)).Moves c →
      c.index ≤ n ∧ Agrees (e.extract 0 n) e c.index := by
    intro c hmoves
    have hle : c.index ≤ max 0 (e.extract 0 n).size := hmoves.le_max
    rw [ByteArray.size_extract] at hle
    exact ⟨by omega, .extract e (by omega)⟩
  cases hcut : r (.start (e.extract 0 n)) with
  | ok b c =>
    obtain ⟨hle, hd⟩ := hagrees (hr.ok hcut)
    have hsame := hwhole.symm.trans (hr.ok_agrees hcut hd)
    have hindex : e.size = c.index := by injection hsame with _ hc; injection hc
    omega
  | error s c =>
    cases hs : s.isShort short with
    | true => exact ⟨s, c, rfl, hs⟩
    | false =>
      have hd := (hagrees (hr.error hcut)).2
      cases hwhole.symm.trans (hr.error_agrees hcut hs hd)

end Reader

/-! ## Readers of the wire layer -/

open Reader

/-- Whether there are bytes enough is all that reading bytes depends on. -/
theorem readBytes_steady (n : Nat) : (readBytes n).Steady DecodeError.isShort where
  ok := fun _ _ _ h => (readBytes_eq_ok_iff.1 h).2.moves
  error := by
    intro c s c' h
    rw [readBytes_apply] at h
    split at h
    · cases h
      exact .refl c
    · split at h
      · cases h
        exact .refl c
      · cases h
  ok_agrees := by
    intro c b c' d h hd
    obtain ⟨hsize, hspan⟩ := readBytes_eq_ok_iff.1 h
    exact readBytes_eq_ok_iff.2 ⟨hsize, hspan.of_agrees hd⟩
  error_agrees := by
    intro c s c' d h hs hd
    rw [readBytes_apply] at h
    split at h
    · cases h
      cases hs
    · next hrem =>
      split at h
      · next hpast =>
        cases h
        -- Past the end nothing remains, so only an empty slice gets here, on other data too.
        have hpast' := hd.size_lt hpast
        have hle := hd.size_le
        rw [Cursor.remaining] at hrem
        rw [readBytes_apply, Cursor.remaining, if_neg (by dsimp only; omega), if_pos hpast']
      · cases h

theorem readUInt_steady (w : Width) : (readUInt w).Steady DecodeError.isShort :=
  (readBytes_steady _).bind fun _ => steady_pure _

theorem readInt_steady (w : Width) : (readInt w).Steady DecodeError.isShort :=
  (readBytes_steady _).bind fun _ => steady_pure _

theorem readBool_steady : readBool.Steady DecodeError.isShort := by
  refine steady_get (fun _ _ => rfl) fun c => ?_
  refine ((readUInt_steady .w8).map UInt8.ofNat).bind fun byte => ?_
  split
  · exact steady_pure _
  · split
    · exact steady_pure _
    · exact steady_throw _

/-- A text is read steadily: its length first, and then so many bytes. -/
theorem readString_steady : readString.Steady DecodeError.isShort := by
  refine steady_get (fun _ _ => rfl) fun c => ?_
  refine (readUInt_steady .w32).bind fun len => steady_demand (fun _ => rfl) ?_
  refine (readBytes_steady len).bind fun bytes => ?_
  split
  · exact steady_pure _
  · exact steady_throw _

theorem readCount_steady (minSize : Nat) : (readCount minSize).Steady DecodeError.isShort :=
  steady_get (fun _ _ => rfl) fun _ =>
    (readUInt_steady .w32).bind fun count => steady_demand (fun _ => rfl) (steady_pure count)

/-- A counted sequence is read steadily if its items are. -/
theorem readSeq_steady {α : Type} (minSize : Nat) {r : Reader DecodeError α}
    (h : r.Steady DecodeError.isShort) : (readSeq minSize r).Steady DecodeError.isShort :=
  (readCount_steady minSize).bind fun n => h.times n

theorem OpenEnum.read_steady (α : Type) [WireEnum α] :
    (OpenEnum.read α).Steady DecodeError.isShort :=
  (readUInt_steady _).bind fun _ => steady_pure _

end WireSchema
