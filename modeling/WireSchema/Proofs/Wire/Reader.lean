import WireSchema.Proofs.Wire.Bytes
import WireSchema.Proofs.Wire.Run

/-!
# What readers consume and accept

A reader that succeeds takes a stretch of the data: the bytes between the cursor before and the
cursor after (`Spans`). Two laws say which bytes go with which result:

* a reader *consumes* a form (`Reader.Consumes`) when the bytes it took are always in the form of
  its result: nothing else is let in;
* a reader *accepts* bytes as a result (`Reader.Accepts`) when it gives that result wherever the
  bytes stand in the data, and stops right behind them.

Both laws pass through sequencing and repetition, so that those of a compound reader follow from
those of its parts. The form of several values one behind the other is `Concat`.
-/

namespace WireSchema

/-! ## Stretches of data -/

/-- Between the cursors `c` and `c'` lie the bytes `e`. -/
structure Spans (c : Cursor) (e : ByteArray) (c' : Cursor) : Prop where
  data_eq : c'.data = c.data
  index_eq : c'.index = c.index + e.size
  le_size : c'.index ≤ c.data.size
  extract_eq : c.data.extract c.index c'.index = e

namespace Spans

variable {c c' c'' : Cursor} {e e' : ByteArray}

theorem refl (h : c.index ≤ c.data.size) : Spans c .empty c where
  data_eq := rfl
  index_eq := by simp
  le_size := h
  extract_eq := by simp

theorem start_le (h : Spans c e c') : c.index ≤ c.data.size := by
  have := h.le_size
  have := h.index_eq
  omega

theorem end_le (h : Spans c e c') : c'.index ≤ c'.data.size :=
  h.data_eq ▸ h.le_size

/-- Bytes behind bytes, from one cursor to the next. -/
theorem append (h : Spans c e c') (h' : Spans c' e' c'') : Spans c (e ++ e') c'' where
  data_eq := h'.data_eq.trans h.data_eq
  index_eq := by rw [h'.index_eq, h.index_eq, ByteArray.size_append, Nat.add_assoc]
  le_size := h.data_eq ▸ h'.le_size
  extract_eq := by
    rw [← h.extract_eq, ← h'.extract_eq, h.data_eq]
    exact ByteArray.extract_eq_extract_append_extract c'.index (by have := h.index_eq; omega)
      (by have := h'.index_eq; omega)

/-- A stretch that holds two parts can be cut between them. -/
theorem split (h : Spans c (e ++ e') c'') : ∃ c', Spans c e c' ∧ Spans c' e' c'' := by
  have hindex := h.index_eq
  rw [ByteArray.size_append] at hindex
  have hle := h.le_size
  have hcut := h.extract_eq
  rw [ByteArray.extract_eq_extract_append_extract (c.index + e.size) (by omega) (by omega)] at hcut
  have hsize : (c.data.extract c.index (c.index + e.size)).size = e.size := by
    rw [ByteArray.size_extract]
    omega
  refine ⟨⟨c.data, c.index + e.size⟩, ⟨rfl, rfl, ?_, ?_⟩, ⟨h.data_eq, ?_, h.le_size, ?_⟩⟩
  · show c.index + e.size ≤ c.data.size
    omega
  · exact ByteArray.append_inj_left hcut hsize
  · show c''.index = c.index + e.size + e'.size
    omega
  · exact ((ByteArray.append_eq_append_iff_of_size_eq_left hsize).1 hcut).2

/-- The bytes between two cursors are determined by the cursors. -/
theorem unique (h : Spans c e c') (h' : Spans c e' c') : e = e' :=
  h.extract_eq.symm.trans h'.extract_eq

/-- Less remains by the bytes that were gone over. -/
theorem remaining_eq (h : Spans c e c') : c.remaining = e.size + c'.remaining := by
  have := h.index_eq
  have := h.le_size
  rw [Cursor.remaining, Cursor.remaining, h.data_eq]
  omega

/-- Bytes with others in front of them and behind them. -/
theorem between (p e t : ByteArray) :
    Spans ⟨p ++ e ++ t, p.size⟩ e ⟨p ++ e ++ t, p.size + e.size⟩ where
  data_eq := rfl
  index_eq := rfl
  le_size := by
    show p.size + e.size ≤ (p ++ e ++ t).size
    rw [ByteArray.size_append, ByteArray.size_append]
    omega
  extract_eq := by
    show (p ++ e ++ t).extract p.size (p.size + e.size) = e
    rw [ByteArray.append_assoc]
    exact (ByteArray.extract_append_size_add (i := 0)).trans (ByteArray.extract_append_eq_left rfl)

/-- Data is the stretch from its start to its end. -/
theorem whole (e : ByteArray) : Spans (.start e) e ⟨e, e.size⟩ := by
  simpa [Cursor.start] using between .empty e .empty

end Spans

/-! ## Laws -/

/-- Values one behind the other, each in its form. -/
inductive Concat {α : Type} (form : α → ByteArray → Prop) : List α → ByteArray → Prop
  | nil : Concat form [] .empty
  | cons {a : α} {as : List α} {e e' : ByteArray} :
      form a e → Concat form as e' → Concat form (a :: as) (e ++ e')

namespace Reader

variable {ε ε' α β : Type}

/-- The bytes that the reader takes are in the form of its result. -/
def Consumes (r : Reader ε α) (form : α → ByteArray → Prop) : Prop :=
  ∀ ⦃c : Cursor⦄ ⦃a : α⦄ ⦃c' : Cursor⦄, c.index ≤ c.data.size → r c = .ok a c' →
    ∃ e, Spans c e c' ∧ form a e

/-- The reader takes the bytes `e`, wherever they stand, as the result `a`. -/
def Accepts (r : Reader ε α) (a : α) (e : ByteArray) : Prop :=
  ∀ ⦃c c' : Cursor⦄, Spans c e c' → r c = .ok a c'

/-! ### Sequencing -/

variable {r : Reader ε α} {f : α → Reader ε β}

theorem Consumes.mono {form form' : α → ByteArray → Prop} (h : r.Consumes form)
    (hmono : ∀ a e, form a e → form' a e) : r.Consumes form' := by
  intro c a c' hc hr
  obtain ⟨e, he, ha⟩ := h hc hr
  exact ⟨e, he, hmono a e ha⟩

theorem consumes_pure (a : α) : (pure a : Reader ε α).Consumes fun b e => b = a ∧ e = .empty := by
  intro c b c' hc hr
  cases hr
  exact ⟨.empty, .refl hc, rfl, rfl⟩

/-- Two readers in a row go over the bytes of both. -/
theorem Consumes.bind {form : α → ByteArray → Prop} {form' : α → β → ByteArray → Prop}
    (hr : r.Consumes form) (hf : ∀ a, (f a).Consumes (form' a)) :
    (r >>= f).Consumes fun b e => ∃ a e₁ e₂, form a e₁ ∧ form' a b e₂ ∧ e = e₁ ++ e₂ := by
  intro c b c'' hc h
  obtain ⟨a, c', ha, hb⟩ := Run.bind_eq_ok_iff.1 h
  obtain ⟨e₁, h₁, hform₁⟩ := hr hc ha
  obtain ⟨e₂, h₂, hform₂⟩ := hf a h₁.end_le hb
  exact ⟨e₁ ++ e₂, h₁.append h₂, a, e₁, e₂, hform₁, hform₂, rfl⟩

theorem Consumes.map {form : α → ByteArray → Prop} (hr : r.Consumes form) (g : α → β) :
    (g <$> r).Consumes fun b e => ∃ a, form a e ∧ g a = b := by
  intro c b c' hc h
  obtain ⟨a, ha, hb⟩ := Run.map_eq_ok_iff.1 h
  obtain ⟨e, he, hform⟩ := hr hc ha
  exact ⟨e, he, a, hform, hb⟩

theorem accepts_pure (a : α) : (pure a : Reader ε α).Accepts a .empty := by
  intro c c' h
  have hindex := h.index_eq
  cases c
  cases c'
  cases h.data_eq
  simp at hindex
  rw [hindex]
  rfl

/-- Two readers in a row accept the bytes of both. -/
theorem Accepts.bind {a : α} {b : β} {e e' : ByteArray} (hr : r.Accepts a e)
    (hf : (f a).Accepts b e') : (r >>= f).Accepts b (e ++ e') := by
  intro c c'' h
  obtain ⟨c', h₁, h₂⟩ := h.split
  rw [Run.bind_of_ok (hr h₁)]
  exact hf h₂

theorem Accepts.map {a : α} {e : ByteArray} (hr : r.Accepts a e) (g : α → β) :
    (g <$> r).Accepts (g a) e :=
  fun _ _ h => Run.map_of_ok (hr h) g

/-- What a reader accepts is in the form that it consumes. -/
theorem Consumes.of_accepts {form : α → ByteArray → Prop} (h : r.Consumes form) {a : α}
    {e : ByteArray} (ha : r.Accepts a e) : form a e := by
  obtain ⟨e', hspan, hform⟩ := h (Nat.zero_le _) (ha (.whole e))
  rwa [(Spans.whole e).unique hspan]

/-! ### Results -/

theorem result_eq_ok_iff {c : Cursor} {a : α} :
    r.result c = .ok a ↔ ∃ c', r c = .ok a c' := by
  rw [result]
  cases r c <;> simp

theorem result_eq_error_iff {c : Cursor} {s : Stop ε} :
    r.result c = .error s ↔ ∃ c', r c = .error s c' := by
  rw [result]
  cases r c <;> simp

/-- Does the reader succeed, with a result and an end that pass a test? -/
def succeeds (r : Reader ε α) (c : Cursor) (test : α → Cursor → Bool) : Bool :=
  match r c with
  | .ok a c' => test a c'
  | .error _ _ => false

theorem exists_of_succeeds {c : Cursor} {test : α → Cursor → Bool}
    (h : r.succeeds c test = true) : ∃ a c', r c = .ok a c' ∧ test a c' = true := by
  rw [succeeds] at h
  split at h
  · next a c' hr => exact ⟨a, c', hr, h⟩
  · cases h

/-! ### Errors of another type -/

theorem mapError_of_ok {g : ε → ε'} {c c' : Cursor} {a : α} (h : r c = .ok a c') :
    r.mapError g c = .ok a c' := by
  rw [mapError, h]

theorem mapError_of_error {g : ε → ε'} {c c' : Cursor} {s : Stop ε} (h : r c = .error s c') :
    r.mapError g c = .error (s.map g) c' := by
  rw [mapError, h]

theorem mapError_eq_ok_iff {g : ε → ε'} {c c' : Cursor} {a : α} :
    r.mapError g c = .ok a c' ↔ r c = .ok a c' := by
  cases h : r c with
  | ok => rw [mapError_of_ok h]; simp
  | error => rw [mapError_of_error h]; simp

theorem mapError_eq_error_iff {g : ε → ε'} {c c' : Cursor} {s : Stop ε'} :
    r.mapError g c = .error s c' ↔ ∃ s', r c = .error s' c' ∧ s = s'.map g := by
  cases h : r c with
  | ok => rw [mapError_of_ok h]; simp
  | error s' c'' =>
    rw [mapError_of_error h]
    refine ⟨fun h' => ?_, ?_⟩
    · cases h'
      exact ⟨s', rfl, rfl⟩
    · rintro ⟨t, ht, rfl⟩
      cases ht
      rfl

theorem Consumes.mapError {form : α → ByteArray → Prop} (h : r.Consumes form) (g : ε → ε') :
    (r.mapError g).Consumes form :=
  fun _ _ _ hc hr => h hc (mapError_eq_ok_iff.1 hr)

theorem Accepts.mapError {a : α} {e : ByteArray} (h : r.Accepts a e) (g : ε → ε') :
    (r.mapError g).Accepts a e :=
  fun _ _ hs => mapError_of_ok (h hs)

/-! ### Repetition -/

/-- The loop gathers what is read in reverse. -/
theorem repeatOnto_eq (r : Reader ε α) (n : Nat) (read : List α) :
    repeatOnto r n read = (read.reverse ++ ·) <$> times n r := by
  induction n generalizing read with
  | zero => simp [times, repeatOnto]
  | succ n ih =>
    simp only [times, repeatOnto, map_bind] at ih ⊢
    congr 1
    funext a
    rw [ih (a :: read), ih [a], Functor.map_map]
    simp

theorem times_zero (r : Reader ε α) : times 0 r = pure [] := rfl

/-- The first value, and the others behind it. -/
theorem times_succ (r : Reader ε α) (n : Nat) :
    times (n + 1) r = (do let a ← r; (a :: ·) <$> times n r) := by
  show (do let a ← r; repeatOnto r n [a]) = _
  congr 1
  funext a
  exact repeatOnto_eq r n [a]

theorem times_map (r : Reader ε α) (f : α → β) (n : Nat) :
    (f <$> r).times n = List.map f <$> r.times n := by
  induction n with
  | zero => rfl
  | succ n ih =>
    rw [times_succ, times_succ, ih, map_bind, bind_map_left]
    congr 1
    funext a
    rw [← comp_map, ← comp_map]
    rfl

/-- The other values, and the last behind them. -/
theorem times_succ_last (r : Reader ε α) (n : Nat) :
    times (n + 1) r = (do let as ← times n r; (as ++ [·]) <$> r) := by
  induction n with
  | zero =>
    rw [times_succ, times_zero, pure_bind]
    exact bind_pure_comp _ _
  | succ n ih =>
    -- Take the first value off on both sides; the last one is then the same.
    rw [times_succ r n, times_succ r (n + 1), ih, bind_assoc]
    congr 1
    funext a
    rw [bind_map_left, map_bind]
    congr 1
    funext as
    rw [← comp_map]
    rfl

/-- An array is its elements, one after the other. -/
theorem toList_readArray (r : Reader ε α) (n : Nat) :
    Vector.toList <$> readArray r n = r.times n := by
  induction n with
  | zero => rfl
  | succ n ih =>
    rw [times_succ_last, ← ih, readArray, map_bind, bind_map_left]
    congr 1
    funext front
    rw [bind_pure_comp, ← comp_map]
    congr 1
    funext last
    exact Vector.toList_push

/-- A repeated reader goes over as many forms, one behind the other. -/
theorem Consumes.times {form : α → ByteArray → Prop} (h : r.Consumes form) (n : Nat) :
    (r.times n).Consumes fun as e => as.length = n ∧ Concat form as e := by
  induction n with
  | zero =>
    refine (consumes_pure []).mono ?_
    rintro as e ⟨rfl, rfl⟩
    exact ⟨rfl, .nil⟩
  | succ n ih =>
    rw [times_succ]
    refine (h.bind fun a => ih.map (a :: ·)).mono ?_
    rintro _ _ ⟨a, e₁, e₂, ha, ⟨as, ⟨rfl, has⟩, rfl⟩, rfl⟩
    exact ⟨rfl, .cons ha has⟩

/-- A repeated reader accepts forms one behind the other. -/
theorem accepts_times {as : List α} {e : ByteArray} (h : Concat (fun a e => r.Accepts a e) as e) :
    (r.times as.length).Accepts as e := by
  induction h with
  | nil => exact accepts_pure []
  | cons ha _ ih =>
    rw [List.length_cons, times_succ]
    exact ha.bind (ih.map _)

end Reader

end WireSchema
