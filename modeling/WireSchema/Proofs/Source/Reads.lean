import WireSchema.Proofs.Source.Runs

/-!
# What parsers read

A parser *reads* a language of phrases with values (`Reads`) when

  * what it takes off the stream is a phrase, and it gives the value of the phrase;
  * where it stops with an error, at some token, the tokens taken so far can be completed to a
    phrase;
  * in both cases it has looked at the tokens that it took and at the one behind them only: behind
    the same tokens it does the same, whatever follows.

The last point is stated for a family of parsers, which have greater bounds on the nesting. The
bound is no reason to stop as long as fewer tokens remain than it has room for.

The law is stated for a language of what is still to be read, so that it can be followed through a
parser step by step: behind a phrase `x` the rest of the parser reads what completes `x`
(`Reads.bind`).
-/

namespace WireSchema.Source

open Phrase (tokens)

variable {α β T : Type} [Phrase T]

/-- The values of trees with their leaves. -/
def Derived (value : T → α) (a : α) (u : List Token) : Prop :=
  ∃ x, tokens x = u ∧ value x = a

/-- The tokens can be completed to a phrase. -/
def Viable (F : α → List Token → Prop) (u : List Token) : Prop :=
  ∃ a v, F a (u ++ v)

/-- Nothing can be completed to a tree if there is one. -/
theorem viable_derived [Nonempty T] (value : T → α) : Viable (Derived value) [] :=
  ⟨_, _, Classical.arbitrary T, rfl, rfl⟩

/-- The parser `p` reads the phrases `F`, and so does each `q d` behind the same tokens. On streams
    of no more than `n` tokens `p` stops at the first token that no phrase goes on with. -/
structure Reads (n : Nat) (p : Parser α) (q : Nat → Parser α) (F : α → List Token → Prop) :
    Prop where
  viable : Viable F []
  ok : ∀ {s s' : Stream} {a : α}, p s = .ok (a, s') →
    ∃ u, s.Leads u s' ∧ F a u ∧
      ∀ {d : Nat} {r r' : Stream}, r.Leads u r' → r'.current = s'.current → q d r = .ok (a, r')
  error : ∀ {s : Stream} {e : SyntaxError}, Ended s.tokens → s.rest.length < n → p s = .error e →
    ∃ u s', s.Leads u s' ∧ (∀ t ∈ u, t.text ≠ "") ∧ s'.current.position = e.position ∧
      Viable F u ∧ ∀ {d : Nat} {r r' : Stream}, r.Leads u r' → r'.current = s'.current →
        q d r = .error e

variable {n : Nat} {p p' : Parser α} {q q' : Nat → Parser α} {F : α → List Token → Prop}

theorem reads_pure {a : α} (h : F a []) : Reads n (pure a) (fun _ => pure a) F where
  viable := ⟨a, [], h⟩
  ok {s s' b} hrun := by
    rw [Parser.pure_run, Except.ok.injEq, Prod.mk.injEq] at hrun
    obtain ⟨rfl, rfl⟩ := hrun
    refine ⟨[], .nil s, h, fun hr _ => ?_⟩
    rw [Stream.leads_nil_iff.1 hr, Parser.pure_run]
  error _ _ hrun := nomatch hrun

/-- A parser that always stops does so at the right token, if something can be read there. -/
theorem reads_failHere {cause : String → SyntaxCause} (h : Viable F []) :
    Reads n (failHere cause) (fun _ => failHere cause) F where
  viable := h
  ok hrun := nomatch hrun
  error {s e} _ _ hrun := by
    refine ⟨[], s, .nil s, nofun, ?_, h, fun {d r r'} hr hcurrent => ?_⟩
    · cases hrun
      rfl
    · rw [← hrun, failHere_run, failHere_run, Stream.leads_nil_iff.1 hr, hcurrent]

/-- A parser without room for tokens may stop anywhere. -/
theorem reads_tooDeep (h : Viable F []) : Reads 0 (failHere fun _ => .tooDeep) q F where
  viable := h
  ok hrun := nomatch hrun
  error _ hn _ := absurd hn (Nat.not_lt_zero _)

/-- What holds of long streams holds of short ones. -/
theorem Reads.mono {m : Nat} (h : Reads n p q F) (hm : m ≤ n) : Reads m p q F where
  viable := h.viable
  ok := h.ok
  error hs hlen := h.error hs (Nat.lt_of_lt_of_le hlen hm)

/-- A parser that reads phrases reads those of a wider sort. -/
theorem Reads.imp {G : α → List Token → Prop} (h : Reads n p q F) (hFG : ∀ a u, F a u → G a u) :
    Reads n p q G where
  viable := by
    obtain ⟨a, v, hv⟩ := h.viable
    exact ⟨a, v, hFG _ _ hv⟩
  ok hrun := by
    obtain ⟨u, hu, hF, hq⟩ := h.ok hrun
    exact ⟨u, hu, hFG _ _ hF, hq⟩
  error hs hlen hrun := by
    obtain ⟨u, s', hu, hne, hpos, ⟨a, v, hv⟩, hq⟩ := h.error hs hlen hrun
    exact ⟨u, s', hu, hne, hpos, ⟨a, v, hFG _ _ hv⟩, hq⟩

/-- Behind a phrase, the parser reads what completes it. -/
theorem Reads.bind {value : T → α} {f : α → Parser β} {g : Nat → α → Parser β}
    {F : β → List Token → Prop} (h : Reads n p q (Derived value))
    (hf : ∀ x, Reads (n - (tokens x).length) (f (value x)) (fun d => g d (value x))
      fun b u => F b (tokens x ++ u)) :
    Reads n (p >>= f) (fun d => q d >>= g d) F where
  viable := by
    obtain ⟨_, _, x, rfl, rfl⟩ := h.viable
    obtain ⟨b, v, hv⟩ := (hf x).viable
    exact ⟨b, _, hv⟩
  ok {s s' b} hrun := by
    obtain ⟨_, m, hp, hrun⟩ := Parser.bind_eq_ok_iff.1 hrun
    obtain ⟨_, hm, ⟨x, rfl, rfl⟩, hq⟩ := h.ok hp
    obtain ⟨v, hv, hF, hg⟩ := (hf x).ok hrun
    refine ⟨_, hm.append hv, hF, fun {d r r'} hr hcurrent => ?_⟩
    obtain ⟨m', hm', hr'⟩ := Stream.leads_append_iff.1 hr
    rw [Parser.bind_of_ok (hq hm' (hv.current_eq hr' hcurrent)), hg hr' hcurrent]
  error {s e} hs hlen hrun := by
    rcases Parser.bind_eq_error_iff.1 hrun with hp | ⟨_, m, hp, hrun⟩
    · -- The phrase of `p` is not complete: complete it, and then what follows it.
      obtain ⟨u, s', hu, hne, hpos, ⟨_, v, x, hx, rfl⟩, hq⟩ := h.error hs hlen hp
      obtain ⟨b, w, hw⟩ := (hf x).viable
      refine ⟨u, s', hu, hne, hpos, ⟨b, v ++ w, ?_⟩, fun hr hcurrent => ?_⟩
      · simpa [hx] using hw
      · exact Parser.bind_of_error (hq hr hcurrent) _
    · obtain ⟨_, hm, ⟨x, rfl, rfl⟩, hq⟩ := h.ok hp
      obtain ⟨hended, heq⟩ := hs.leads hm (Phrase.text_ne x)
      have hlen' : m.rest.length < n - (tokens x).length := by
        have := congrArg List.length heq
        simp only [Stream.tokens, List.length_append, List.length_cons] at this
        omega
      obtain ⟨v, s', hv, hne, hpos, ⟨b, w, hw⟩, hg⟩ := (hf x).error hended hlen' hrun
      refine ⟨_, s', hm.append hv, List.forall_mem_append.2 ⟨Phrase.text_ne x, hne⟩, hpos,
        ⟨b, w, ?_⟩, fun {d r r'} hr hcurrent => ?_⟩
      · rwa [List.append_assoc]
      · obtain ⟨m', hm', hr'⟩ := Stream.leads_append_iff.1 hr
        rw [Parser.bind_of_ok (hq hm' (hv.current_eq hr' hcurrent)), hg hr' hcurrent]

/-- The value of what is read last is changed. -/
theorem Reads.map {g : α → β} {F : β → List Token → Prop} (h : Reads n p q fun a u => F (g a) u) :
    Reads n (p >>= fun a => pure (g a)) (fun d => q d >>= fun a => pure (g a)) F where
  viable := by
    obtain ⟨a, v, hv⟩ := h.viable
    exact ⟨g a, v, hv⟩
  ok {s s' b} hrun := by
    obtain ⟨a, m, hp, hrun⟩ := Parser.bind_eq_ok_iff.1 hrun
    rw [Parser.pure_run, Except.ok.injEq, Prod.mk.injEq] at hrun
    obtain ⟨rfl, rfl⟩ := hrun
    obtain ⟨u, hu, hF, hq⟩ := h.ok hp
    refine ⟨u, hu, hF, fun hr hcurrent => ?_⟩
    rw [Parser.bind_of_ok (hq hr hcurrent), Parser.pure_run]
  error {s e} hs hlen hrun := by
    rcases Parser.bind_eq_error_iff.1 hrun with hp | ⟨_, _, _, hrun⟩
    · obtain ⟨u, s', hu, hne, hpos, ⟨a, v, hv⟩, hq⟩ := h.error hs hlen hp
      exact ⟨u, s', hu, hne, hpos, ⟨g a, v, hv⟩, fun hr hcurrent =>
        Parser.bind_of_error (hq hr hcurrent) _⟩
    · exact nomatch hrun

/-- A token is taken if it passes a test, and what follows depends on it. The end of the text can
    only be taken if nothing can go wrong behind it. -/
theorem reads_eat {test : String → Bool}
    (hend : ∀ {s e}, p s = .error e → test "" = false)
    (hyes : ∀ t : Token, test t.text = true → Reads (n - 1) p q fun a u => F a (t :: u))
    (hno : Reads n p' q' F) :
    Reads n (do if ← eat test then p else p') (fun d => do if ← eat test then q d else q' d)
      F where
  viable := hno.viable
  ok {s s' a} hrun := by
    cases ht : test s.current.text with
    | true =>
      rw [ifEat_yes ht] at hrun
      obtain ⟨u, hu, hF, hq⟩ := (hyes _ ht).ok hrun
      refine ⟨s.current :: u, .cons hu, hF, fun {d r r'} hr hcurrent => ?_⟩
      obtain ⟨heq, hr⟩ := Stream.leads_cons_iff.1 hr
      rw [← heq] at ht
      rw [ifEat_yes ht, hq hr hcurrent]
    | false =>
      rw [ifEat_no ht] at hrun
      obtain ⟨u, hu, hF, hq⟩ := hno.ok hrun
      refine ⟨u, hu, hF, fun {d r r'} hr hcurrent => ?_⟩
      rw [← hu.current_eq hr hcurrent] at ht
      rw [ifEat_no ht, hq hr hcurrent]
  error {s e} hs hlen hrun := by
    cases ht : test s.current.text with
    | true =>
      rw [ifEat_yes ht] at hrun
      -- The branch has failed, so the token that was eaten was not the end.
      have hne : s.current.text ≠ "" := fun h => by simp [h, hend hrun] at ht
      obtain ⟨hended, heq⟩ := hs.next hne
      have hlen' : s.next.rest.length < n - 1 := by
        have := congrArg List.length heq
        simp only [Stream.tokens, List.length_cons] at this
        omega
      obtain ⟨u, s', hu, hne', hpos, hviable, hq⟩ := (hyes _ ht).error hended hlen' hrun
      refine ⟨s.current :: u, s', .cons hu, List.forall_mem_cons.2 ⟨hne, hne'⟩, hpos, hviable,
        fun {d r r'} hr hcurrent => ?_⟩
      obtain ⟨heq, hr⟩ := Stream.leads_cons_iff.1 hr
      rw [← heq] at ht
      rw [ifEat_yes ht, hq hr hcurrent]
    | false =>
      rw [ifEat_no ht] at hrun
      obtain ⟨u, s', hu, hne, hpos, hviable, hq⟩ := hno.error hs hlen hrun
      refine ⟨u, s', hu, hne, hpos, hviable, fun {d r r'} hr hcurrent => ?_⟩
      rw [← hu.current_eq hr hcurrent] at ht
      rw [ifEat_no ht, hq hr hcurrent]

/-- A branch on a mark reads what its branches read, with the mark in front in the first one. -/
theorem reads_eatMark {c : Char}
    (hyes : ∀ x : Mark c, Reads (n - 1) p q fun a u => F a (x.token :: u))
    (hno : Reads n p' q' F) :
    Reads n (do if ← eatMark c then p else p') (fun d => do if ← eatMark c then q d else q' d) F :=
  reads_eat (fun _ => by simp [isMark]) (fun t ht => hyes ⟨t, isMark_iff.1 ht⟩) hno

/-- A branch on a keyword reads what its branches read, with the keyword in front in the first
    one. -/
theorem reads_eatWord {k : Keyword}
    (hyes : ∀ x : Word k, Reads (n - 1) p q fun a u => F a (x.token :: u))
    (hno : Reads n p' q' F) :
    Reads n (do if ← eat (· == k.text) then p else p')
      (fun d => do if ← eat (· == k.text) then q d else q' d) F :=
  reads_eat (fun _ => by cases k <;> decide) (fun t ht => hyes ⟨t, beq_iff_eq.1 ht⟩) hno

/-- The end of the text is taken, and nothing is read behind it. -/
theorem reads_eatEnd {a : α} (hyes : ∀ t : Token, t.text = "" → F a [t])
    (hno : Reads n p' q' F) :
    Reads n (do if ← eat (· == "") then pure a else p')
      (fun d => do if ← eat (· == "") then pure a else q' d) F :=
  reads_eat (fun h => nomatch h) (fun t ht => reads_pure (hyes t (beq_iff_eq.1 ht))) hno

/-- Stops at the end of the text, where the mark `c` is wanted. -/
theorem refuseEnd_run (c : Char) (p : Parser α) (s : Stream) :
    (do
      if (← peek).text == "" then expectMark c
      p) s =
      if s.current.text = "" then .error ⟨s.current.position, .expected (.mark c) s.current.text⟩
      else p s := by
  change (if s.current.text == "" then expectMark c >>= fun _ => p else p) s = _
  by_cases h : s.current.text = ""
  · have hno : isMark c s.current.text = false := by simp [isMark, h]
    rw [if_pos (beq_iff_eq.2 h), if_pos h, expectMark]
    exact Parser.bind_of_error (Parser.bind_of_error (expect_no hno _) _) _
  · rw [if_neg (by simpa using h), if_neg h]

/-- Refusing the end does not change what is read. -/
theorem reads_refuseEnd {c : Char} (h : Reads n p q F) :
    Reads n
      (do
        if (← peek).text == "" then expectMark c
        p)
      (fun d => do
        if (← peek).text == "" then expectMark c
        q d) F where
  viable := h.viable
  ok {s s' a} hrun := by
    rw [refuseEnd_run] at hrun
    split at hrun
    · cases hrun
    · next hne =>
      obtain ⟨u, hu, hF, hq⟩ := h.ok hrun
      refine ⟨u, hu, hF, fun {d r r'} hr hcurrent => ?_⟩
      rw [refuseEnd_run, hu.current_eq hr hcurrent, if_neg hne, hq hr hcurrent]
  error {s e} hs hlen hrun := by
    rw [refuseEnd_run] at hrun
    split at hrun
    · -- The refusal stands at the end itself, where nothing was taken.
      next heq =>
      refine ⟨[], s, .nil s, nofun, ?_, h.viable, fun {d r r'} hr hcurrent => ?_⟩
      · rw [← Except.error.inj hrun]
      · rw [← hrun, refuseEnd_run, Stream.leads_nil_iff.1 hr, hcurrent, if_pos heq]
    · next hne =>
      obtain ⟨u, s', hu, hne', hpos, hviable, hq⟩ := h.error hs hlen hrun
      refine ⟨u, s', hu, hne', hpos, hviable, fun {d r r'} hr hcurrent => ?_⟩
      rw [refuseEnd_run, hu.current_eq hr hcurrent, if_neg hne, hq hr hcurrent]

/-- A parser of single tokens. -/
theorem reads_token {f : Token → Except SyntaxError α}
    (hp : ∀ s : Stream, p s = (f s.current).map fun a => (a, s.next))
    (hok : ∀ {t a}, f t = .ok a → F a [t])
    (herror : ∀ {t e}, f t = .error e → t.position = e.position) (hviable : Viable F []) :
    Reads n p (fun _ => p) F where
  viable := hviable
  ok {s s' a} hrun := by
    cases hf : f s.current with
    | error e => simp [hp, hf, Except.map] at hrun
    | ok b =>
      simp only [hp, hf, Except.map, Except.ok.injEq, Prod.mk.injEq] at hrun
      obtain ⟨rfl, rfl⟩ := hrun
      refine ⟨[s.current], .cons (.nil _), hok hf, fun {d r r'} hr _ => ?_⟩
      obtain ⟨heq, hr⟩ := Stream.leads_cons_iff.1 hr
      rw [hp, heq, hf, Stream.leads_nil_iff.1 hr]
      rfl
  error {s e} _ _ hrun := by
    cases hf : f s.current with
    | ok b => simp [hp, hf, Except.map] at hrun
    | error e' =>
      simp only [hp, hf, Except.map, Except.error.injEq] at hrun
      subst hrun
      -- The token that is refused is the first one, and nothing was taken before it.
      refine ⟨[], s, .nil s, nofun, herror hf, hviable, fun {d r r'} hr hcurrent => ?_⟩
      rw [hp, Stream.leads_nil_iff.1 hr, hcurrent, hf]
      rfl

end WireSchema.Source
