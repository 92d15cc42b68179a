import WireSchema.Proofs.Wire.Steady

/-!
# Bounds on the nesting

A reader of nested data has a bound on how deep it goes, and is *exhausted* where the bound is too
small. A larger bound changes nothing else: `Reader.Deepens` says that a reader does what another
does wherever that one is not exhausted. So where a bound is large enough, all larger ones give the
same.

The bound of a reader may be taken from the size of the data. Then the reader is as steady as it is
for each bound alone, as long as it is never exhausted (`Reader.steady_of_depth`).
-/

namespace WireSchema.Reader

variable {ε α β : Type} {r r' : Reader ε α} {f f' : α → Reader ε β}

/-- The second reader does what the first does, unless that one is exhausted. -/
def Deepens (r r' : Reader ε α) : Prop :=
  ∀ ⦃c : Cursor⦄, (∀ c', r c ≠ .error .exhausted c') → r' c = r c

theorem Deepens.refl (r : Reader ε α) : r.Deepens r := fun _ _ => rfl

/-- Two readers in a row keep their answers if each of them does. -/
theorem Deepens.bind (hr : r.Deepens r') (hf : ∀ a, (f a).Deepens (f' a)) :
    (r >>= f).Deepens (r' >>= f') := by
  intro c h
  cases hc : r c with
  | ok a c' =>
    have hc' : r' c = .ok a c' := (hr fun c'' => by rw [hc]; nofun).trans hc
    rw [Run.bind_of_ok hc, Run.bind_of_ok hc']
    refine hf a fun c'' hs => h c'' ?_
    rw [Run.bind_of_ok hc, hs]
  | error s c' =>
    -- The failure of the first reader is that of both, so it is not exhaustion.
    have hs : ∀ c'', r c ≠ .error .exhausted c'' :=
      fun c'' hs => h c'' (Run.bind_of_error hs f)
    rw [Run.bind_of_error hc, Run.bind_of_error ((hr hs).trans hc)]

theorem Deepens.map (hr : r.Deepens r') (g : α → β) : (g <$> r).Deepens (g <$> r') := by
  rw [map_eq_pure_bind, map_eq_pure_bind]
  exact hr.bind fun _ => .refl _

/-- A repeated reader keeps its answers if it does so once. -/
theorem Deepens.times (hr : r.Deepens r') (n : Nat) : (r.times n).Deepens (r'.times n) := by
  induction n with
  | zero => exact .refl _
  | succ n ih =>
    rw [times_succ, times_succ]
    exact hr.bind fun _ => ih.map _

/-- A reader whose bound on the depth grows with the data is steady. -/
theorem steady_of_depth {short : ε → Bool} {r : Nat → Reader ε α} {bound : Nat → Nat}
    (hsteady : ∀ depth, (r depth).Steady short)
    (hdeepens : ∀ {depth depth'}, depth ≤ depth' → (r depth).Deepens (r depth'))
    (hbound : ∀ {n n'}, n ≤ n' → bound n ≤ bound n')
    (hends : ∀ c c', r (bound c.data.size) c ≠ .error .exhausted c') :
    (get >>= fun c => r (bound c.data.size) : Reader ε α).Steady short := by
  -- Data that is longer allows for more depth, which the shorter data does not need.
  have hdeeper : ∀ {c : Cursor} {d : ByteArray} {j : Nat}, Agrees c.data d j →
      r (bound d.size) c = r (bound c.data.size) c :=
    fun {c d j} hd => hdeepens (hbound hd.size_le) (hends c)
  refine ⟨⟨fun c _ _ h => (hsteady _).ok h, fun c _ _ h => (hsteady _).error h⟩,
    fun c a c' d h hd => ?_, fun c s c' d h hs hd => ?_⟩
  · rw [Run.get_bind, ← hdeeper hd] at h
    exact (hsteady _).ok_agrees h hd
  · rw [Run.get_bind, ← hdeeper hd] at h
    exact (hsteady _).error_agrees h hs hd

end WireSchema.Reader
