import WireSchema.Proofs.Source.Recognition
import WireSchema.Proofs.Source.Unambiguous

/-!
# The parser accepts the grammar

Each parser takes the leaves of every tree of its rule and gives what the tree says (`Takes`), if
the text behind them is not one that the tree could go on with and the bound on the nesting is
greater than the number of leaves.
-/

namespace WireSchema.Source

open Phrase (tokens)

variable {α β : Type} {p p' : Parser α} {a : α} {u v : List Token} {P Q : String → Prop}

/-- Off each stream that starts with `u`, where the text behind satisfies `P`, the parser takes `u`
    and gives `a`. -/
def Takes (p : Parser α) (a : α) (u : List Token) (P : String → Prop) : Prop :=
  ∀ r r' : Stream, r.Leads u r' → P r'.current.text → p r = .ok (a, r')

/-- The stream in front of tokens stands at the first of them. -/
theorem Stream.Leads.current_text {r r' : Stream} (h : r.Leads u r') :
    r.current.text = firstText u r'.current.text := by
  cases h with
  | nil => rfl
  | cons h => rfl

theorem takes_pure (a : α) : Takes (pure a) a [] P := by
  intro r r' hr _
  rw [Stream.leads_nil_iff.1 hr, Parser.pure_run]

/-- A parser and then another take what both take, if the first may stop where the second begins. -/
theorem Takes.bind {f : α → Parser β} {b : β} (h : Takes p a u P) (h' : Takes (f a) b v Q)
    (hPQ : ∀ text, Q text → P (firstText v text)) : Takes (p >>= f) b (u ++ v) Q := by
  intro r r' hr hQ
  obtain ⟨m, hm, hr'⟩ := Stream.leads_append_iff.1 hr
  rw [Parser.bind_of_ok (h _ _ hm (hr'.current_text ▸ hPQ _ hQ)), h' _ _ hr' hQ]

/-- A parser that takes tokens does so in front of fewer texts. -/
theorem Takes.mono (h : Takes p a u Q) (hPQ : ∀ text, P text → Q text) : Takes p a u P :=
  fun r r' hr hP => h r r' hr (hPQ _ hP)

/-- Where the first parser may stop in front of anything, the second may be any. -/
theorem Takes.seq {f : α → Parser β} {b : β} (h : Takes p a u fun _ => True)
    (h' : Takes (f a) b v Q) : Takes (p >>= f) b (u ++ v) Q :=
  h.bind h' fun _ _ => trivial

/-- A parser of one token and then another. -/
theorem Takes.cons {f : α → Parser β} {b : β} {t : Token} (h : Takes p a [t] fun _ => True)
    (h' : Takes (f a) b v Q) : Takes (p >>= f) b (t :: v) Q :=
  h.seq h'

/-- What is taken last changes its value only. -/
theorem Takes.map {b : β} {f : α → β} (h : Takes p a u P) (hf : f a = b) :
    Takes (p >>= fun a => pure (f a)) b u P := by
  rw [← List.append_nil u]
  exact h.bind (hf ▸ takes_pure (f a)) fun _ => id

/-- A token that passes the test leads to the first branch. -/
theorem takes_eat_yes {test : String → Bool} {t : Token} (ht : test t.text = true)
    (h : Takes p a u P) : Takes (do if ← eat test then p else p') a (t :: u) P := by
  intro r r' hr hP
  obtain ⟨rfl, hnext⟩ := Stream.leads_cons_iff.1 hr
  rw [ifEat_yes ht, h _ _ hnext hP]

/-- Where the next text does not pass the test, nothing is taken and the second branch is led to. -/
theorem takes_eat_no {test : String → Bool}
    (ht : ∀ text, P text → test (firstText u text) = false) (h : Takes p' a u P) :
    Takes (do if ← eat test then p else p') a u P := by
  intro r r' hr hP
  rw [ifEat_no (hr.current_text ▸ ht _ hP), h _ _ hr hP]

/-- An expected token is taken and given. -/
theorem takes_expect {test : String → Bool} {t : Token} (ht : test t.text = true)
    (wanted : Wanted) : Takes (expect test wanted) t [t] P := by
  intro r r' hr hP
  obtain ⟨rfl, hnext⟩ := Stream.leads_cons_iff.1 hr
  rw [expect_yes ht, Stream.leads_nil_iff.1 hnext]

/-! ## Leaves -/

theorem isMark_eq_false_iff {c : Char} {text : String} :
    isMark c text = false ↔ text ≠ String.singleton c := by
  simp [isMark]

theorem takes_eatMark_yes {c : Char} (x : Mark c) (h : Takes p a u P) :
    Takes (do if ← eatMark c then p else p') a (x.token :: u) P :=
  takes_eat_yes (isMark_iff.2 x.isOf) h

theorem takes_eatMark_no {c : Char}
    (hc : ∀ text, P text → firstText u text ≠ String.singleton c) (h : Takes p' a u P) :
    Takes (do if ← eatMark c then p else p') a u P :=
  takes_eat_no (fun text ht => isMark_eq_false_iff.2 (hc text ht)) h

theorem Leaf.takes_name (x : Name) (wanted : Wanted) :
    Takes (expect isIdentifier wanted) x.token [x.token] P :=
  takes_expect (isIdentifier_iff.2 x.isOf) wanted

theorem Leaf.takes_mark {c : Char} (x : Mark c) : Takes (expectMark c) () [x.token] P :=
  .map (takes_expect (isMark_iff.2 x.isOf) _) rfl

/-- An integer is taken and read as its number. -/
theorem Leaf.takes_integer (x : IntegerLeaf) :
    Takes expectInteger (integerOf x.token.text) [x.token] P := by
  refine .cons (takes_expect x.isOf.isInteger _) ?_
  rw [integerValue?_eq_some_iff.2 ⟨x.isOf, rfl⟩]
  exact takes_pure _

/-! ## Types -/

/-- The suffixes of a type are taken one by one, up to where no bracket opens. -/
theorem parseSuffixes_takes {fuel : Nat} (xs : List Suffix) (type : TypeExpr)
    (h : (tokens xs).length < fuel) :
    Takes (parseSuffixes fuel type) (xs.foldl Suffix.attach type) (tokens xs)
      (· ≠ String.singleton '[') := by
  induction xs generalizing fuel type with
  | nil =>
    obtain ⟨fuel, rfl⟩ := Nat.exists_eq_add_of_lt h
    rw [parseSuffixes]
    exact takes_eatMark_no (fun _ => id) (takes_pure _)
  | cons x xs ih =>
    obtain ⟨fuel, rfl⟩ := Nat.exists_eq_add_of_lt h
    obtain ⟨left, len, right⟩ := x
    rw [parseSuffixes]
    refine takes_eatMark_yes left ?_
    cases len with
    | none => exact takes_eatMark_yes right (ih _ (by simp; omega))
    | some len =>
      refine takes_eatMark_no (fun _ _ => len.isOf.ne_singleton (by decide)) ?_
      exact .cons len.takes_integer <| .cons right.takes_mark <| ih _ (by simp; omega)

/-- Types and arguments are taken whole if the bound exceeds their tokens. -/
theorem parseType_parseArgs_takes (fuel : Nat) :
    (∀ x : TypeTree, (tokens x).length < fuel →
      Takes (parseType fuel) x.type (tokens x) BehindType) ∧
    ∀ x : ArgsTree, (tokens x).length < fuel →
      Takes (parseArgs fuel) x.types (tokens x) fun _ => True := by
  -- The two parsers call one another with a smaller bound: the induction is on that, not on the
  -- tree.
  induction fuel with
  | zero => exact ⟨fun _ h => absurd h (Nat.not_lt_zero _), fun _ h => absurd h (Nat.not_lt_zero _)⟩
  | succ fuel ih =>
    obtain ⟨htype, hargs⟩ := ih
    refine ⟨fun x h => ?_, fun x h => ?_⟩
    · rw [parseType]
      cases x with
      | plain name suffixes =>
        simp only [tokens_plain, List.length_cons] at h
        refine .cons (name.takes_name _) (takes_eatMark_no (fun text htext => ?_) ?_)
        · exact firstText_suffixes_ne suffixes htext
        · exact (parseSuffixes_takes _ _ (by omega)).mono fun _ => And.right
      | generic name left args suffixes =>
        simp only [tokens_generic, List.length_cons, List.length_append] at h
        refine .cons (name.takes_name _) (takes_eatMark_yes left ?_)
        exact (hargs args (by omega)).seq <|
          (parseSuffixes_takes _ _ (by omega)).mono fun _ => And.right
    · rw [parseArgs]
      cases x with
      | last type right =>
        simp only [tokens_last, List.length_append, List.length_singleton] at h
        refine (htype type (by omega)).bind (takes_eatMark_no (fun _ _ => ?_) ?_) fun _ _ => ?_
        · simp [right.isOf]
        · exact .map right.takes_mark rfl
        · exact right.behindType []
      | more type comma rest =>
        simp only [tokens_more, List.length_append, List.length_cons] at h ⊢
        refine (htype type (by omega)).bind (takes_eatMark_yes comma ?_) fun _ _ => ?_
        · exact .map (hargs rest (by omega)) rfl
        · exact comma.behindType (tokens rest)

/-! ## Enums -/

/-- Members are taken up to the closing brace. -/
theorem parseMembers_takes {fuel : Nat} (xs : List MemberTree) (right : Mark '\x7d')
    (h : (tokens xs).length < fuel) :
    Takes (parseMembers fuel) (xs.map MemberTree.decl) (tokens xs ++ [right.token]) P := by
  induction xs generalizing fuel with
  | nil =>
    obtain ⟨fuel, rfl⟩ := Nat.exists_eq_add_of_lt h
    rw [parseMembers]
    exact takes_eatMark_yes right (takes_pure _)
  | cons x xs ih =>
    obtain ⟨fuel, rfl⟩ := Nat.exists_eq_add_of_lt h
    rw [parseMembers]
    refine takes_eatMark_no (fun _ _ => x.name.isOf.ne_singleton (by decide)) ?_
    refine .cons (x.name.takes_name _) <| .cons x.equals.takes_mark <|
      .cons x.value.takes_integer <| .cons x.semicolon.takes_mark <| .map (ih ?_) rfl
    simp
    omega

/-- A width is taken if there is a colon. -/
theorem parseWidth_takes (o : Option WidthTree) :
    Takes parseWidth (o.map fun w => widthOf w.width.token.text) (tokens o)
      (· ≠ String.singleton ':') := by
  cases o with
  | none => exact takes_eatMark_no (fun _ => id) (takes_pure _)
  | some w =>
    refine takes_eatMark_yes w.colon (.cons (takes_expect w.width.isOf.isIdentifier _) ?_)
    rw [ofName?_eq_some_iff.2 ⟨w.width.isOf, rfl⟩]
    exact takes_pure _

/-- An enum is taken and read as its definition. -/
theorem parseEnum_takes {fuel : Nat} (path : List String) (x : EnumTree)
    (h : (tokens x).length < fuel) :
    Takes (parseEnum fuel (dotted path)) (x.definition path) (tokens x) P := by
  simp only [tokens_enum, List.length_cons, List.length_append] at h
  refine .cons (x.name.takes_name _) <| (parseWidth_takes x.width).bind
    (.cons x.left.takes_mark <| .map (parseMembers_takes x.members x.right (by omega)) rfl)
    fun _ _ => ?_
  simp [x.left.isOf]

/-! ## Messages -/

/-- Fields are taken up to the closing brace. -/
theorem parseFields_takes {fuel : Nat} (xs : List FieldTree) (right : Mark '\x7d')
    (h : (tokens xs).length < fuel) :
    Takes (parseFields fuel) (xs.map FieldTree.decl) (tokens xs ++ [right.token]) P := by
  induction xs generalizing fuel with
  | nil =>
    obtain ⟨fuel, rfl⟩ := Nat.exists_eq_add_of_lt h
    rw [parseFields]
    exact takes_eatMark_yes right (takes_pure _)
  | cons x xs ih =>
    obtain ⟨fuel, rfl⟩ := Nat.exists_eq_add_of_lt h
    rw [parseFields]
    simp only [tokens_cons, tokens_field, List.append_assoc, List.cons_append, List.nil_append,
      List.length_append, List.length_cons]
    refine takes_eatMark_no (fun text _ => ?_) ?_
    · rw [firstText_append]
      exact (isName_firstText x.type _).ne_singleton (by decide)
    · refine ((parseType_parseArgs_takes _).1 x.type (by omega)).bind
        (.cons (x.name.takes_name _) <| .cons x.semicolon.takes_mark <| .map (ih (by omega)) rfl)
        fun _ _ => ⟨?_, ?_⟩
      · exact x.name.isOf.ne_singleton (by decide)
      · exact x.name.isOf.ne_singleton (by decide)

/-- An identifier is taken if there is an equals sign. -/
theorem parseTag_takes (o : Option TagTree) :
    Takes parseTag (o.map fun t => integerOf t.id.token.text) (tokens o)
      (· ≠ String.singleton '=') := by
  cases o with
  | none => exact takes_eatMark_no (fun _ => id) (takes_pure _)
  | some t => exact takes_eatMark_yes t.equals (.map t.id.takes_integer rfl)

/-- A marker is taken if a bracket opens. -/
theorem parseMarker_takes (o : Option MarkerTree) :
    Takes parseMarker o.isSome (tokens o) (· ≠ String.singleton '[') := by
  cases o with
  | none => exact takes_eatMark_no (fun _ => id) (takes_pure _)
  | some m =>
    exact takes_eatMark_yes m.left <| takes_eat_yes (beq_iff_eq.2 m.word.isOf) <|
      .map m.right.takes_mark rfl

/-- A message is taken and read as its definition. -/
theorem parseMessage_takes {fuel : Nat} (path : List String) (x : MessageTree)
    (h : (tokens x).length < fuel) :
    Takes (parseMessage fuel (dotted path)) (x.definition path) (tokens x) P := by
  simp only [tokens_message, List.length_cons, List.length_append] at h
  refine .cons (x.name.takes_name _) <| (parseTag_takes x.tag).bind
    ((parseMarker_takes x.marker).bind
      (.cons x.left.takes_mark <| .map (parseFields_takes x.fields x.right (by omega)) rfl)
      fun _ _ => ?_) fun _ _ => ?_
  · simp [x.left.isOf]
  · exact firstText_marker_ne x.marker x.left _ _

/-! ## Namespaces -/

/-- A path is taken as long as dots follow. -/
theorem parsePath_takes {fuel : Nat} (x : PathTree) (h : (tokens x).length < fuel) :
    Takes (parsePath fuel) x.names (tokens x) (· ≠ String.singleton '.') := by
  induction x generalizing fuel with
  | last name =>
    obtain ⟨fuel, rfl⟩ := Nat.exists_eq_add_of_lt h
    rw [parsePath]
    exact .cons (name.takes_name _) <| takes_eatMark_no (fun _ => id) (takes_pure _)
  | more name dot rest ih =>
    obtain ⟨fuel, rfl⟩ := Nat.exists_eq_add_of_lt h
    rw [parsePath]
    exact .cons (name.takes_name _) <| takes_eatMark_yes dot <| .map (ih (by simp; omega)) rfl

/-- Where the tokens do not end, refusing the end does nothing. -/
theorem takes_refuseEnd {c : Char} (hend : ∀ text, P text → firstText u text ≠ "")
    (h : Takes p a u P) :
    Takes (do
      if (← peek).text == "" then expectMark c
      p) a u P := by
  intro r r' hr hP
  rw [refuseEnd_run, if_neg (hr.current_text ▸ hend _ hP), h _ _ hr hP]

/-- At the closing token the items end. -/
theorem parseEnd_takes_yes (path : List String) (stop : Leaf (· = closing path))
    (h : Takes p a [] P) :
    Takes (do if ← parseEnd (dotted path) then p else p') a [stop.token] P := by
  cases path with
  | nil =>
    rw [parseEnd_top]
    exact takes_eat_yes (beq_iff_eq.2 stop.isOf) h
  | cons name path =>
    rw [dotted, if_neg (by simp), parseEnd_bind]
    exact takes_eat_yes (isMark_iff.2 stop.isOf) h

/-- In front of an item they do not. -/
theorem parseEnd_takes_no (path : List String) (hu : ∀ text, ¬ BehindItems (firstText u text))
    (h : Takes p' a u P) : Takes (do if ← parseEnd (dotted path) then p else p') a u P := by
  cases path with
  | nil =>
    rw [parseEnd_top]
    refine takes_eat_no (fun text _ => ?_) h
    simpa using fun heq => hu text (.inl heq)
  | cons name path =>
    rw [dotted, if_neg (by simp), parseEnd_bind]
    exact takes_eatMark_no (fun text _ heq => hu text (.inr heq))
      (takes_refuseEnd (fun text _ heq => hu text (.inl heq)) h)

/-- The items of a block are taken up to what closes it, and read as their definitions. -/
theorem parseItems_takes {fuel : Nat} (path : List String) (x : Items)
    (stop : Leaf (· = closing path)) (h : (tokens x).length < fuel) :
    Takes (parseItems fuel (dotted path)) (x.definitions path) (tokens x ++ [stop.token])
      fun _ => True := by
  induction x generalizing fuel path with
  | nil =>
    obtain ⟨fuel, rfl⟩ := Nat.exists_eq_add_of_lt h
    rw [parseItems]
    exact parseEnd_takes_yes path stop (takes_pure _)
  | block keyword names left inner right rest ih ih' =>
    obtain ⟨fuel, rfl⟩ := Nat.exists_eq_add_of_lt h
    -- What closes the block is what stops the items inside of it.
    have hclosing : right.token.text = closing (path ++ names.names) := by
      rw [closing, if_neg (by simp [names.names_ne_nil]), right.isOf]
      rfl
    simp only [tokens_blockItem, List.length_cons, List.length_append, List.cons_append,
      List.append_assoc]
    rw [parseItems]
    refine parseEnd_takes_no path (fun _ => keyword.not_behindItems) ?_
    refine takes_eat_yes (beq_iff_eq.2 keyword.isOf) ?_
    refine (parsePath_takes names (by omega)).bind (.cons left.takes_mark ?_) fun _ _ => ?_
    · rw [nestScope_dotted _ names.names_ne_nil, List.append_cons]
      exact (ih _ ⟨right.token, hclosing⟩ (by omega)).seq (.map (ih' path stop (by omega)) rfl)
    · simp [left.isOf]
  | enum keyword decl rest ih =>
    obtain ⟨fuel, rfl⟩ := Nat.exists_eq_add_of_lt h
    simp only [tokens_enumItem, List.length_cons, List.length_append, List.cons_append,
      List.append_assoc]
    rw [parseItems]
    refine parseEnd_takes_no path (fun _ => keyword.not_behindItems) ?_
    refine takes_eat_no (fun _ _ => ?_) <| takes_eat_yes (beq_iff_eq.2 keyword.isOf) ?_
    · simp [keyword.isOf, Keyword.text]
    · exact (parseEnum_takes path decl (by omega)).seq (.map (ih path stop (by omega)) rfl)
  | message keyword decl rest ih =>
    obtain ⟨fuel, rfl⟩ := Nat.exists_eq_add_of_lt h
    simp only [tokens_messageItem, List.length_cons, List.length_append, List.cons_append,
      List.append_assoc]
    rw [parseItems]
    refine parseEnd_takes_no path (fun _ => keyword.not_behindItems) ?_
    refine takes_eat_no (fun _ _ => ?_) <| takes_eat_no (fun _ _ => ?_) <|
      takes_eat_yes (beq_iff_eq.2 keyword.isOf) ?_
    · simp [keyword.isOf, Keyword.text]
    · simp [keyword.isOf, Keyword.text]
    · exact (parseMessage_takes path decl (by omega)).seq (.map (ih path stop (by omega)) rfl)

/-! ## Whole texts -/

/-- Tokens that start with a derivation say what the derivation says. -/
theorem parseTokens_of_prefix {x : Derivation} {ts : List Token} (h : x.tokens <+: ts)
    (label : String) : parseTokens ts label = .ok ⟨label, x.definitions⟩ := by
  obtain ⟨items, stop⟩ := x
  obtain ⟨more, rfl⟩ := h
  obtain ⟨s, hs⟩ := Stream.exists_tokens_eq (by simp [Derivation.tokens] :
    Derivation.tokens ⟨items, stop⟩ ++ more ≠ [])
  have hs' : s.tokens = tokens items ++ Stream.tokens ⟨stop.token, more⟩ := by
    rw [hs, Derivation.tokens, List.append_assoc]
    rfl
  -- The token at the end is taken, too; it still stands there if it is the last one.
  have hleads : s.Leads (tokens items ++ [stop.token]) (Stream.next ⟨stop.token, more⟩) :=
    (Stream.leads_of_tokens_eq hs').append (.cons (.nil _))
  have hlen : (tokens items).length < nestingBound s.tokens.length := by
    rw [hs', nestingBound, List.length_append]
    omega
  have hrun := parseItems_takes [] items ⟨stop.token, stop.isOf⟩ hlen _ _ hleads trivial
  rw [← hs, parseTokens_tokens]
  exact congrArg (Except.map _) hrun

/-- Tokens with a derivation say what the derivation says. -/
theorem parseTokens_derivation (x : Derivation) (label : String) :
    parseTokens x.tokens label = .ok ⟨label, x.definitions⟩ :=
  parseTokens_of_prefix List.prefix_rfl label

end WireSchema.Source
