import WireSchema.Proofs.Source.Language

/-!
# The parser comes to an end

Tokens need not end with an empty one, and may have empty ones anywhere. When they end too early the
last one is seen again and again, so that the number of tokens still to be read does not always get
smaller. But it does from one repetition to the next: what is taken in between has at least two
different texts, and a token that stays has one (`Stream.Leads.rest_lt`).

So the bound on the nesting is never the reason to stop (`Halts`). The law is stated for parsers
that stand behind the tokens `u`, and can be followed through a parser as these grow.
-/

namespace WireSchema.Source

open Phrase (tokens)

/-! ## Streams that get shorter -/

namespace Stream

variable {s s' r : Stream} {u : List Token} {t t' : Token}

/-- Each step leaves one token less. -/
theorem length_rest_next (s : Stream) : s.next.rest.length = s.rest.length - 1 := by
  obtain ⟨current, rest⟩ := s
  cases rest <;> rfl

/-- A step adds no tokens. -/
theorem tokens_next_subset (s : Stream) : s.next.tokens ⊆ s.tokens := by
  obtain ⟨current, rest⟩ := s
  cases rest with
  | nil => exact List.Subset.refl _
  | cons t rest => exact List.subset_cons_self _ _

/-- On its way, a stream gets no new tokens. -/
theorem Leads.tokens_subset (h : s.Leads u s') : s'.tokens ⊆ s.tokens := by
  induction h with
  | nil s => exact List.Subset.refl _
  | @cons s _ _ _ ih => exact List.Subset.trans ih s.tokens_next_subset

/-- On its way, a stream does not get longer. -/
theorem Leads.rest_le (h : s.Leads u s') : s'.rest.length ≤ s.rest.length := by
  induction h with
  | nil s => exact Nat.le_refl _
  | @cons s _ _ _ ih =>
    have := s.length_rest_next
    omega

/-- Where two different texts are taken, fewer tokens are left. -/
theorem Leads.rest_lt (h : s.Leads u s') (ht : t ∈ u) (ht' : t' ∈ u) (hne : t.text ≠ t'.text) :
    s'.rest.length < s.rest.length := by
  cases h with
  | nil => cases ht
  | cons hnext =>
    have hrest : s.rest ≠ [] := by
      intro hs
      obtain ⟨-, hall⟩ := (Leads.cons hnext).of_rest_eq_nil hs
      rw [hall t ht, hall t' ht'] at hne
      exact hne rfl
    have hle := hnext.rest_le
    have hpos := List.length_pos_iff.2 hrest
    rw [s.length_rest_next] at hle
    omega

end Stream

/-! ## The law -/

variable {α β T : Type} [Phrase T] {k k' n : Nat} {u : List Token} {p p' : Parser α}
  {q q' : Nat → Parser α}

/-- Behind the tokens `u` of a stream with less than half of `k` tokens behind its first one, the
    parser stops for a reason other than the bound on the nesting, and at a token of the stream.
    Each `q d`, which has a greater bound, stops for the same reason. -/
structure Halts (k : Nat) (u : List Token) (p : Parser α) (q : Nat → Parser α) : Prop where
  error : ∀ {s s' : Stream} {e : SyntaxError}, 2 * s.rest.length < k → s.Leads u s' →
    p s' = .error e →
    e.cause ≠ .tooDeep ∧ (∃ t ∈ s'.tokens, t.position = e.position) ∧ ∀ d, q d s' = .error e

/-- No stream has less than no tokens. -/
theorem halts_zero : Halts 0 u p q where
  error h := absurd h (Nat.not_lt_zero _)

theorem halts_pure (a : α) : Halts k u (pure a) fun _ => pure a where
  error _ _ h := nomatch h

/-- A parser without a bound, which stops at the current token only. -/
theorem halts_here (h : ∀ {s : Stream} {e : SyntaxError}, p s = .error e →
    e.cause ≠ .tooDeep ∧ s.current.position = e.position) : Halts k u p fun _ => p where
  error {s s' e} _ _ hrun := by
    obtain ⟨hcause, hposition⟩ := h hrun
    exact ⟨hcause, ⟨s'.current, List.mem_cons_self, hposition⟩, fun _ => hrun⟩

/-- A failure at the current token, for a reason other than the nesting. -/
theorem halts_failHere {cause : String → SyntaxCause} (h : ∀ text, cause text ≠ .tooDeep) :
    Halts k u (failHere cause : Parser α) fun _ => failHere cause := by
  refine halts_here fun {s e} hrun => ?_
  rw [failHere_run, Except.error.injEq] at hrun
  subst hrun
  exact ⟨h _, rfl⟩

/-- What stands in front may be left out. -/
theorem Halts.start (h : Halts k' [] p q) (hk : k ≤ k') : Halts k u p q where
  error {s s' e} hlen hu hrun := by
    have := hu.rest_le
    exact h.error (by omega) (.nil s') hrun

/-- If two of the tokens in front have different texts, less has to be asked of what follows. -/
theorem Halts.again (h : Halts k' [] p q) (hk : k ≤ k' + 2) {t t' : Token} (hne : t.text ≠ t'.text)
    (ht : t ∈ u) (ht' : t' ∈ u) : Halts k u p q where
  error {s s' e} hlen hu hrun := by
    have := hu.rest_lt ht ht' hne
    exact h.error (by omega) (.nil s') hrun

/-- Behind a phrase, the rest of the parser halts if it does so behind the leaves of the phrase. -/
theorem Halts.bind {value : T → α} {f : α → Parser β} {g : Nat → α → Parser β}
    (h : Halts k u p q) (hread : Reads n p q (Derived value))
    (hf : ∀ x, Halts k (u ++ tokens x) (f (value x)) fun d => g d (value x)) :
    Halts k u (p >>= f) fun d => q d >>= g d where
  error {s s' e} hlen hu hrun := by
    rcases Parser.bind_eq_error_iff.1 hrun with hp | ⟨_, m, hp, hrun⟩
    · obtain ⟨hcause, hposition, hq⟩ := h.error hlen hu hp
      exact ⟨hcause, hposition, fun d => Parser.bind_of_error (hq d) _⟩
    · obtain ⟨_, hm, ⟨x, rfl, rfl⟩, hq⟩ := hread.ok hp
      obtain ⟨hcause, ⟨t, ht, hposition⟩, hg⟩ := (hf x).error hlen (hu.append hm) hrun
      refine ⟨hcause, ⟨t, hm.tokens_subset ht, hposition⟩, fun d => ?_⟩
      rw [Parser.bind_of_ok (hq hm rfl), hg]

/-- Changing a value is no reason to stop. -/
theorem Halts.map {g : α → β} (h : Halts k u p q) :
    Halts k u (p >>= fun a => pure (g a)) fun d => q d >>= fun a => pure (g a) where
  error {s s' e} hlen hu hrun := by
    rcases Parser.bind_eq_error_iff.1 hrun with hp | ⟨_, _, _, hrun⟩
    · obtain ⟨hcause, hposition, hq⟩ := h.error hlen hu hp
      exact ⟨hcause, hposition, fun d => Parser.bind_of_error (hq d) _⟩
    · exact nomatch hrun

/-- A branch stops as its branches do, the first of them behind the token that was eaten. -/
theorem halts_eat {test : String → Bool}
    (hyes : ∀ t : Token, test t.text = true → Halts k (u ++ [t]) p q) (hno : Halts k u p' q') :
    Halts k u (do if ← eat test then p else p')
      (fun d => do if ← eat test then q d else q' d) where
  error {s s' e} hlen hu hrun := by
    cases ht : test s'.current.text with
    | true =>
      rw [ifEat_yes ht] at hrun
      obtain ⟨hcause, ⟨t, hmem, hposition⟩, hq⟩ :=
        (hyes _ ht).error hlen (hu.append (.cons (.nil _))) hrun
      refine ⟨hcause, ⟨t, s'.tokens_next_subset hmem, hposition⟩, fun d => ?_⟩
      rw [ifEat_yes ht, hq]
    | false =>
      rw [ifEat_no ht] at hrun
      obtain ⟨hcause, hposition, hq⟩ := hno.error hlen hu hrun
      refine ⟨hcause, hposition, fun d => ?_⟩
      rw [ifEat_no ht, hq]

theorem halts_eatMark {c : Char} (hyes : ∀ x : Mark c, Halts k (u ++ [x.token]) p q)
    (hno : Halts k u p' q') :
    Halts k u (do if ← eatMark c then p else p')
      (fun d => do if ← eatMark c then q d else q' d) :=
  halts_eat (fun t ht => hyes ⟨t, isMark_iff.1 ht⟩) hno

theorem halts_eatWord {w : Keyword} (hyes : ∀ x : Word w, Halts k (u ++ [x.token]) p q)
    (hno : Halts k u p' q') :
    Halts k u (do if ← eat (· == w.text) then p else p')
      (fun d => do if ← eat (· == w.text) then q d else q' d) :=
  halts_eat (fun t ht => hyes ⟨t, beq_iff_eq.1 ht⟩) hno

/-- Refusing the end stops there, and otherwise as what follows. -/
theorem halts_refuseEnd {c : Char} (h : Halts k u p q) :
    Halts k u
      (do
        if (← peek).text == "" then expectMark c
        p)
      (fun d => do
        if (← peek).text == "" then expectMark c
        q d) where
  error {s s' e} hlen hu hrun := by
    simp only [refuseEnd_run] at hrun ⊢
    split at hrun
    · next hend =>
      cases hrun
      exact ⟨by simp, ⟨s'.current, List.mem_cons_self, rfl⟩, fun d => if_pos hend⟩
    · next hne =>
      obtain ⟨hcause, hposition, hq⟩ := h.error hlen hu hrun
      exact ⟨hcause, hposition, fun d => (if_neg hne).trans (hq d)⟩

/-! ## Leaves -/

/-- Expecting a token stops at the one that is there instead. -/
theorem expect_halts (test : String → Bool) (wanted : Wanted) :
    Halts k u (expect test wanted) fun _ => expect test wanted := by
  refine halts_here fun {s e} hrun => ?_
  cases ht : test s.current.text with
  | true => simp [expect_yes ht] at hrun
  | false =>
    rw [expect_no ht] at hrun
    cases hrun
    exact ⟨by simp, rfl⟩

/-- A token that stands for something is taken, and one that does not is stopped at. -/
theorem convert_halts {test : String → Bool} {wanted : Wanted} (value : String → Option α)
    (cause : String → SyntaxCause) (hcause : ∀ text, cause text ≠ .tooDeep) {f : Token → Parser β}
    {g : α → β}
    (hf : ∀ t, f t = (value t.text).elim (throw ⟨t.position, cause t.text⟩) fun a => pure (g a)) :
    Halts k u (do f (← expect test wanted)) (fun _ => do f (← expect test wanted)) := by
  refine halts_here fun {s e} hrun => ?_
  cases ht : test s.current.text with
  | true =>
    rw [Parser.bind_of_ok (expect_yes ht wanted), hf] at hrun
    cases hv : value s.current.text with
    | none =>
      rw [hv] at hrun
      cases hrun
      exact ⟨hcause _, rfl⟩
    | some a =>
      rw [hv] at hrun
      cases hrun
  | false =>
    rw [Parser.bind_of_error (expect_no ht wanted)] at hrun
    cases hrun
    exact ⟨by simp, rfl⟩

theorem expectName_halts : Halts k u expectName fun _ => expectName :=
  expect_halts _ _

theorem expectMark_halts (c : Char) : Halts k u (expectMark c) fun _ => expectMark c :=
  (expect_halts _ _).map

theorem expectInteger_halts : Halts k u expectInteger fun _ => expectInteger :=
  convert_halts integerValue? .invalidInteger (by simp) (g := id)
    fun t => by cases integerValue? t.text <;> rfl

/-! ## Types -/

/-- A name is no mark. -/
theorem IsName.ne_mark {text : String} (h : IsName text) {c : Char} (x : Mark c)
    (hc : ¬ IsLetter c) : text ≠ x.token.text := by
  rw [x.isOf]
  exact h.ne_singleton hc

/-- Each suffix has two brackets, so the bound lasts for all of them. -/
theorem parseSuffixes_halts (fuel : Nat) (type : TypeExpr) :
    Halts fuel [] (parseSuffixes fuel type) fun d => parseSuffixes (fuel + d) type := by
  induction fuel generalizing type with
  | zero => exact halts_zero
  | succ fuel ih =>
    simp only [Nat.add_right_comm fuel 1, parseSuffixes]
    refine halts_eatMark (fun left => halts_eatMark (fun right => ?_) ?_) (halts_pure _)
    · exact (ih _).again (by omega) (left.text_ne right (by decide)) (by simp) (by simp)
    · refine expectInteger_halts.bind (expectInteger_reads (n := 0)) fun len =>
        (expectMark_halts ']').bind (expectMark_reads (n := 0) ']') fun right => ?_
      exact (ih _).again (by omega) (left.text_ne right (by decide)) (by simp) (by simp)

/-- Every type has a name among its tokens. -/
theorem TypeTree.exists_isName (x : TypeTree) : ∃ t ∈ Phrase.tokens x, IsName t.text := by
  cases x with
  | plain name suffixes => exact ⟨name.token, by simp, name.isOf⟩
  | generic name left args suffixes => exact ⟨name.token, by simp, name.isOf⟩

/-- Each level of arguments has a name and a bracket of its own, which pay for two levels of the
    bound. -/
theorem parseType_parseArgs_halts (fuel : Nat) :
    Halts (fuel - 1) [] (parseType fuel) (fun d => parseType (fuel + d)) ∧
      Halts (fuel - 2) [] (parseArgs fuel) fun d => parseArgs (fuel + d) := by
  induction fuel with
  | zero => exact ⟨halts_zero, halts_zero⟩
  | succ fuel ih =>
    obtain ⟨htype, hargs⟩ := ih
    refine ⟨?_, ?_⟩
    · simp only [Nat.add_right_comm fuel 1, parseType]
      refine (expect_halts _ _).bind (expectWord_reads (n := 0)) fun name =>
        halts_eatMark (fun left => ?_) ((parseSuffixes_halts fuel _).start (by omega))
      refine (hargs.again (by omega) (name.isOf.ne_mark left (by decide)) (by simp) (by simp)).bind
        (parseType_parseArgs_reads fuel).2 fun args => ?_
      exact (parseSuffixes_halts fuel _).start (by omega)
    · simp only [Nat.add_right_comm fuel 1, parseArgs]
      refine (htype.start (by omega)).bind (parseType_parseArgs_reads fuel).1 fun type => ?_
      obtain ⟨t, ht, hname⟩ := type.exists_isName
      refine halts_eatMark (fun comma => ?_) ?_
      · have hne := hname.ne_mark comma (by decide)
        exact (hargs.again (by omega) hne (by simp [ht]) (by simp)).map
      · exact (expectMark_halts '>').map

/-! ## Definitions -/

/-- Each member has tokens, so the bound lasts for all of them. -/
theorem parseMembers_halts (fuel : Nat) :
    Halts fuel [] (parseMembers fuel) fun d => parseMembers (fuel + d) := by
  induction fuel with
  | zero => exact halts_zero
  | succ fuel ih =>
    simp only [Nat.add_right_comm fuel 1, parseMembers]
    refine halts_eatMark (fun _ => halts_pure _) ?_
    refine expectName_halts.bind (expectName_reads (n := 0)) fun name =>
      (expectMark_halts '=').bind (expectMark_reads (n := 0) '=') fun equals =>
      expectInteger_halts.bind (expectInteger_reads (n := 0)) fun value =>
      (expectMark_halts ';').bind (expectMark_reads (n := 0) ';') fun semicolon => ?_
    exact (ih.again (by omega) (name.isOf.ne_mark equals (by decide)) (by simp) (by simp)).map

theorem parseWidth_halts : Halts k u parseWidth fun _ => parseWidth := by
  refine halts_eatMark (fun _ => ?_) (halts_pure _)
  refine convert_halts Width.ofName? .unknownWidth (by simp) (g := some) fun t => ?_
  cases Width.ofName? t.text <;> rfl

/-- An enum stops for a reason of its own and not for the bound. -/
theorem parseEnum_halts (fuel : Nat) (scope : Option String) :
    Halts fuel u (parseEnum fuel scope) fun d => parseEnum (fuel + d) scope := by
  refine expectName_halts.bind (expectName_reads (n := 0)) fun name =>
    parseWidth_halts.bind (parseWidth_reads (n := 0)) fun width =>
    (expectMark_halts '\x7b').bind (expectMark_reads (n := 0) '\x7b') fun left => ?_
  exact ((parseMembers_halts fuel).start (Nat.le_refl _)).map

/-- Each field has tokens, so the bound lasts for all of them and for the types in them. -/
theorem parseFields_halts (fuel : Nat) :
    Halts (fuel - 2) [] (parseFields fuel) fun d => parseFields (fuel + d) := by
  induction fuel with
  | zero => exact halts_zero
  | succ fuel ih =>
    simp only [Nat.add_right_comm fuel 1, parseFields]
    refine halts_eatMark (fun _ => halts_pure _) ?_
    obtain ⟨htype, -⟩ := parseType_parseArgs_halts fuel
    refine (htype.start (by omega)).bind (parseType_parseArgs_reads fuel).1 fun type =>
      expectName_halts.bind (expectName_reads (n := 0)) fun name =>
      (expectMark_halts ';').bind (expectMark_reads (n := 0) ';') fun semicolon => ?_
    exact (ih.again (by omega) (name.isOf.ne_mark semicolon (by decide)) (by simp) (by simp)).map

theorem parseTag_halts : Halts k u parseTag fun _ => parseTag :=
  halts_eatMark (fun _ => expectInteger_halts.map) (halts_pure _)

theorem parseMarker_halts : Halts k u parseMarker fun _ => parseMarker :=
  halts_eatMark
    (fun _ => halts_eatWord (w := .marker) (fun _ => (expectMark_halts ']').map)
      (halts_failHere (by simp)))
    (halts_pure _)

/-- A message stops for a reason of its own and not for the bound. -/
theorem parseMessage_halts (fuel : Nat) (scope : Option String) :
    Halts (fuel - 2) u (parseMessage fuel scope) fun d => parseMessage (fuel + d) scope := by
  refine expectName_halts.bind (expectName_reads (n := 0)) fun name =>
    parseTag_halts.bind (parseTag_reads (n := 0)) fun tag =>
    parseMarker_halts.bind (parseMarker_reads (n := 0)) fun marker =>
    (expectMark_halts '\x7b').bind (expectMark_reads (n := 0) '\x7b') fun left => ?_
  exact ((parseFields_halts fuel).start (Nat.le_refl _)).map

/-- Each name of a path but the last has a dot, so the bound lasts for all of them. -/
theorem parsePath_halts (fuel : Nat) :
    Halts fuel [] (parsePath fuel) fun d => parsePath (fuel + d) := by
  induction fuel with
  | zero => exact halts_zero
  | succ fuel ih =>
    simp only [Nat.add_right_comm fuel 1, parsePath]
    refine expectName_halts.bind (expectName_reads (n := 0)) fun name =>
      halts_eatMark (fun dot => ?_) (halts_pure _)
    exact (ih.again (by omega) (name.isOf.ne_mark dot (by decide)) (by simp) (by simp)).map

/-- Asking for the end of a block takes nothing off the bound. -/
theorem parseEnd_halts (path : List String) {a : α} (h : Halts k u p q) :
    Halts k u (do if ← parseEnd (dotted path) then pure a else p)
      (fun d => do if ← parseEnd (dotted path) then pure a else q d) := by
  cases path with
  | nil =>
    simp only [parseEnd_top]
    exact halts_eat (fun _ _ => halts_pure a) h
  | cons name path =>
    simp only [dotted, List.isEmpty_cons, Bool.false_eq_true, if_false, parseEnd_bind]
    exact halts_eatMark (fun _ => halts_pure a) (halts_refuseEnd h)

theorem Leaf.isName {w : Keyword} (x : Word w) : IsName x.token.text := by
  rw [x.isOf, ← isIdentifier_iff]
  cases w <;> decide

/-- Each item has a keyword, and each block a brace as well, so the bound lasts for all of them. -/
theorem parseItems_halts (fuel : Nat) (path : List String) :
    Halts (fuel - 3) [] (parseItems fuel (dotted path))
      fun d => parseItems (fuel + d) (dotted path) := by
  induction fuel generalizing path with
  | zero => exact halts_zero
  | succ fuel ih =>
    simp only [Nat.add_right_comm fuel 1, parseItems]
    refine parseEnd_halts path ?_
    refine halts_eatWord (w := .scope) (fun keyword => ?_) <|
      halts_eatWord (w := .enum) (fun keyword => ?_) <|
      halts_eatWord (w := .message) (fun keyword => ?_) <| halts_failHere (by simp)
    · refine ((parsePath_halts fuel).start (by omega)).bind (parsePath_reads fuel) fun names =>
        (expectMark_halts '\x7b').bind (expectMark_reads (n := 0) '\x7b') fun left => ?_
      have hinner : path ++ names.names ≠ [] := by simp [names.names_ne_nil]
      -- The keyword and the brace are two tokens, which pay for the step down and for the rest.
      have hne := keyword.isName.ne_mark left (by decide)
      rw [nestScope_dotted _ names.names_ne_nil]
      refine ((ih _).again (by omega) hne (by simp) (by simp)).bind
        ((parseItems_reads fuel _).imp fun _ _ h => h.derived hinner) fun x => ?_
      exact ((ih path).again (by omega) hne (by simp) (by simp)).map
    · refine ((parseEnum_halts fuel _).start (by omega)).bind (parseEnum_reads fuel path)
        fun decl => ?_
      have hne := keyword.isName.ne_mark decl.left (by decide)
      exact ((ih path).again (by omega) hne (by simp) (by simp)).map
    · refine ((parseMessage_halts fuel _).start (by omega)).bind (parseMessage_reads fuel path)
        fun decl => ?_
      have hne := keyword.isName.ne_mark decl.left (by decide)
      exact ((ih path).again (by omega) hne (by simp) (by simp)).map

/-! ## Whole lists of tokens -/

/-- The definitions that tokens say, if they are read with another bound on the nesting. -/
def parseWithin (bound : Nat) (ts : List Token) (label : String) :
    Except SyntaxError SourceFile :=
  match ts with
  | [] => .ok ⟨label, []⟩
  | t :: rest => (parseItems bound none ⟨t, rest⟩).map fun x => ⟨label, x.1⟩

theorem parseWithin_tokens (bound : Nat) (s : Stream) (label : String) :
    parseWithin bound s.tokens label =
      (parseItems bound none s).map fun x => ⟨label, x.1⟩ :=
  rfl

/-- With the bound that the length gives, items stop at a token and for a reason that a greater
    bound keeps. -/
theorem parseItems_error {s : Stream} {e : SyntaxError}
    (h : parseItems (nestingBound s.tokens.length) none s = .error e) :
    e.cause ≠ .tooDeep ∧ (∃ t ∈ s.tokens, t.position = e.position) ∧
      ∀ d, parseItems (nestingBound s.tokens.length + d) none s = .error e := by
  refine (parseItems_halts _ []).error ?_ (.nil s) h
  rw [nestingBound, Stream.tokens, List.length_cons]
  omega

/-- With a greater bound on the nesting the tokens say the same. -/
theorem parseWithin_eq {bound : Nat} {ts : List Token} (h : nestingBound ts.length ≤ bound)
    (label : String) : parseWithin bound ts label = parseTokens ts label := by
  cases ts with
  | nil => rfl
  | cons t rest =>
    obtain ⟨s, hs⟩ := Stream.exists_tokens_eq (by simp : t :: rest ≠ [])
    rw [← hs] at h ⊢
    obtain ⟨d, rfl⟩ := Nat.exists_eq_add_of_le h
    rw [parseWithin_tokens, parseTokens_tokens]
    refine congrArg (Except.map _) ?_
    cases hrun : parseItems (nestingBound s.tokens.length) none s with
    | ok x =>
      obtain ⟨_, hu, -, hdeeper⟩ := (parseItems_reads _ []).ok hrun
      exact hdeeper hu rfl
    | error e => exact (parseItems_error hrun).2.2 d

/-- The parser comes to an end on all tokens, whatever their texts and places are and however they
    end: the bound on the nesting is no reason to stop, and a greater one makes no difference. Where
    it fails, it does so at one of the tokens. Where it does not, there are no tokens at all, or
    they start with a derivation, which ends with an empty token outside of all namespaces. -/
theorem parseTokens_halts (ts : List Token) (label : String) :
    (∀ bound, nestingBound ts.length ≤ bound → parseWithin bound ts label = parseTokens ts label) ∧
    (∀ e, parseTokens ts label = .error e →
      e.cause ≠ .tooDeep ∧ ∃ t ∈ ts, t.position = e.position) ∧
    ∀ file, parseTokens ts label = .ok file ↔
      (ts = [] ∧ file = ⟨label, []⟩) ∨
        ∃ x : Derivation, x.tokens <+: ts ∧ file = ⟨label, x.definitions⟩ := by
  refine ⟨fun bound h => parseWithin_eq h label, fun e h => ?_, fun file => ⟨fun h => ?_, ?_⟩⟩
  · have hne : ts ≠ [] := by
      rintro rfl
      cases h
    obtain ⟨s, rfl⟩ := Stream.exists_tokens_eq hne
    obtain ⟨hcause, hposition, -⟩ := parseItems_error (parseTokens_eq_error_iff.1 h)
    exact ⟨hcause, hposition⟩
  · -- Without tokens nothing is parsed, and nothing is what comes out.
    by_cases hne : ts = []
    · subst hne
      cases h
      exact .inl ⟨rfl, rfl⟩
    · exact .inr (exists_prefix_of_parseTokens hne h)
  · rintro (⟨rfl, rfl⟩ | ⟨x, hx, rfl⟩)
    · rfl
    · exact parseTokens_of_prefix hx label

/-- Two blocks with a single brace at the end: it closes both of them and is still there. -/
def sharedBrace : List Token :=
  inLine ["namespace", "a", "\x7b", "namespace", "b", "\x7b", "\x7d"]

/-- The brace that closes both blocks is unexpected behind them, under every bound. -/
theorem parseTokens_halts_sharedBrace :
    parseTokens sharedBrace "" = .error ⟨⟨1, 6⟩, .unexpected "\x7d"⟩ ∧
      (∃ t ∈ sharedBrace, t.position = ⟨1, 6⟩) ∧
      parseWithin 1000 sharedBrace "" = .error ⟨⟨1, 6⟩, .unexpected "\x7d"⟩ := by
  have herror : parseTokens sharedBrace "" = .error ⟨⟨1, 6⟩, .unexpected "\x7d"⟩ := rfl
  obtain ⟨hbound, hfails, -⟩ := parseTokens_halts sharedBrace ""
  obtain ⟨-, hposition⟩ := hfails _ herror
  exact ⟨herror, hposition, (hbound 1000 (by decide)).trans herror⟩

end WireSchema.Source
