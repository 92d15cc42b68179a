import WireSchema.Wire.Reader
import WireSchema.Wire.Writer

/-!
# Runs of readers and writers

Readers and writers are steps over a state, a cursor or the bytes written so far, that can stop
early. What a step does in a given state is its *run*. The run of a compound step is put together
from the runs of its parts: these lemmas are the only place that looks into the monad.
-/

namespace WireSchema.Run

variable {ε ε' σ α β : Type}

theorem bind_of_ok {x : EStateM ε σ α} {s s' : σ} {a : α} (h : x s = .ok a s')
    (f : α → EStateM ε σ β) : (x >>= f) s = f a s' := by
  change EStateM.bind x f s = _
  rw [EStateM.bind, h]

theorem bind_of_error {x : EStateM ε σ α} {s s' : σ} {e : ε} (h : x s = .error e s')
    (f : α → EStateM ε σ β) : (x >>= f) s = .error e s' := by
  change EStateM.bind x f s = _
  rw [EStateM.bind, h]

/-- Two steps succeed if the first does and the second after it. -/
theorem bind_eq_ok_iff {x : EStateM ε σ α} {f : α → EStateM ε σ β} {s s'' : σ} {b : β} :
    (x >>= f) s = .ok b s'' ↔ ∃ a s', x s = .ok a s' ∧ f a s' = .ok b s'' := by
  cases h : x s with
  | ok a s' =>
    rw [bind_of_ok h]
    refine ⟨fun hf => ⟨a, s', rfl, hf⟩, ?_⟩
    rintro ⟨a', t, ht, hf⟩
    cases ht
    exact hf
  | error e s' =>
    rw [bind_of_error h]
    refine ⟨fun hf => (nomatch hf), ?_⟩
    rintro ⟨a', t, ht, _⟩
    cases ht

/-- Two steps fail if the first does, or the second after it. -/
theorem bind_eq_error_iff {x : EStateM ε σ α} {f : α → EStateM ε σ β} {s s'' : σ} {e : ε} :
    (x >>= f) s = .error e s'' ↔
      x s = .error e s'' ∨ ∃ a s', x s = .ok a s' ∧ f a s' = .error e s'' := by
  cases h : x s with
  | ok a s' =>
    rw [bind_of_ok h]
    refine ⟨fun hf => .inr ⟨a, s', rfl, hf⟩, ?_⟩
    rintro (ht | ⟨a', t, ht, hf⟩)
    · cases ht
    · cases ht
      exact hf
  | error e' s' =>
    rw [bind_of_error h]
    refine ⟨fun hf => ?_, ?_⟩
    · cases hf
      exact .inl rfl
    · rintro (ht | ⟨a', t, ht, _⟩)
      · cases ht
        rfl
      · cases ht

theorem map_of_ok {x : EStateM ε σ α} {s s' : σ} {a : α} (h : x s = .ok a s') (f : α → β) :
    (f <$> x) s = .ok (f a) s' := by
  change EStateM.map f x s = _
  rw [EStateM.map, h]

theorem map_of_error {x : EStateM ε σ α} {s s' : σ} {e : ε} (h : x s = .error e s')
    (f : α → β) : (f <$> x) s = .error e s' := by
  change EStateM.map f x s = _
  rw [EStateM.map, h]

theorem map_eq_ok_iff {x : EStateM ε σ α} {f : α → β} {s s' : σ} {b : β} :
    (f <$> x) s = .ok b s' ↔ ∃ a, x s = .ok a s' ∧ f a = b := by
  cases h : x s with
  | ok a t =>
    rw [map_of_ok h]
    refine ⟨fun hf => ?_, ?_⟩
    · cases hf
      exact ⟨a, rfl, rfl⟩
    · rintro ⟨a', ht, rfl⟩
      cases ht
      rfl
  | error e t =>
    rw [map_of_error h]
    refine ⟨fun hf => (nomatch hf), ?_⟩
    rintro ⟨a', ht, _⟩
    cases ht

theorem map_congr {x : EStateM ε σ α} {f g : α → β}
    (h : ∀ s a s', x s = .ok a s' → f a = g a) : f <$> x = g <$> x := by
  funext s
  cases hs : x s with
  | ok a s' => rw [map_of_ok hs, map_of_ok hs, h s a s' hs]
  | error e s' => rw [map_of_error hs, map_of_error hs]

/-- A step that first looks at the state is the step for that state. -/
theorem get_bind (f : σ → EStateM ε σ β) (s : σ) : (get >>= f) s = f s s := rfl

end WireSchema.Run
