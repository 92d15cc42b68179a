import WireSchema.Proofs.Source.Grammar

/-!
# Runs of parsers

A run of a parser takes tokens off a stream (`Stream.Leads`) and gives a value, or stops with an
error. The run of a compound parser is put together from the runs of its parts; only the lemmas here
look into the monad. The parsers of single tokens accept the texts that the grammar asks for.
-/

namespace WireSchema.Source

/-! ## Streams -/

namespace Stream

/-- Taking the tokens `u` off the stream leads to another one. The last token can be taken any
    number of times. -/
inductive Leads : Stream → List Token → Stream → Prop
  | nil (s : Stream) : Leads s [] s
  | cons {s r : Stream} {u : List Token} : Leads s.next u r → Leads s (s.current :: u) r

variable {s s' r r' m : Stream} {t : Token} {u v : List Token}

theorem leads_nil_iff : s.Leads [] r ↔ s = r := by
  refine ⟨fun h => ?_, fun h => h ▸ .nil s⟩
  cases h
  rfl

/-- A way over tokens begins with the current one. -/
theorem leads_cons_iff : s.Leads (t :: u) r ↔ s.current = t ∧ s.next.Leads u r := by
  refine ⟨fun h => ?_, ?_⟩
  · cases h with
    | cons h => exact ⟨rfl, h⟩
  · rintro ⟨rfl, h⟩
    exact .cons h

/-- A way over two runs of tokens passes between them. -/
theorem leads_append_iff : s.Leads (u ++ v) r ↔ ∃ m, s.Leads u m ∧ m.Leads v r := by
  induction u generalizing s with
  | nil => simp [leads_nil_iff]
  | cons t u ih =>
    simp only [List.cons_append, leads_cons_iff, ih]
    tauto

theorem Leads.append (h : s.Leads u m) (h' : m.Leads v r) : s.Leads (u ++ v) r :=
  leads_append_iff.2 ⟨m, h, h'⟩

/-- The tokens taken and the one behind them tell which token comes first. -/
theorem Leads.current_eq (h : s.Leads u s') (h' : r.Leads u r') (heq : r'.current = s'.current) :
    r.current = s.current := by
  cases u with
  | nil => rwa [leads_nil_iff.1 h, leads_nil_iff.1 h']
  | cons t u => rw [(leads_cons_iff.1 h).1, (leads_cons_iff.1 h').1]

end Stream

/-- The last token has the empty text, and no other has it. -/
inductive Ended : List Token → Prop
  | stop {t : Token} : t.text = "" → Ended [t]
  | cons {t : Token} {ts : List Token} : t.text ≠ "" → Ended ts → Ended (t :: ts)

/-- Tokens end with the first empty one, and nothing is behind it. -/
theorem ended_cons_iff {t : Token} {ts : List Token} :
    Ended (t :: ts) ↔ t.text = "" ∧ ts = [] ∨ t.text ≠ "" ∧ Ended ts := by
  constructor
  · intro h
    cases h with
    | stop h => exact .inl ⟨h, rfl⟩
    | cons h h' => exact .inr ⟨h, h'⟩
  · rintro (⟨h, rfl⟩ | ⟨h, h'⟩)
    · exact .stop h
    · exact .cons h h'

/-- Tokens with the end behind them are ended. -/
theorem ended_append {ts : List Token} {t : Token} (hts : ∀ t ∈ ts, t.text ≠ "")
    (ht : t.text = "") : Ended (ts ++ [t]) := by
  induction ts with
  | nil => exact .stop ht
  | cons t ts ih =>
    obtain ⟨hne, hts⟩ := List.forall_mem_cons.1 hts
    exact .cons hne (ih hts)

/-- Nothing stands behind a token with the empty text. -/
theorem Ended.eq_nil_of_append {ts more : List Token} {t : Token} (h : Ended (ts ++ t :: more))
    (ht : t.text = "") : more = [] := by
  induction ts with
  | nil =>
    rcases ended_cons_iff.1 h with ⟨-, hmore⟩ | ⟨hne, -⟩
    · exact hmore
    · exact absurd ht hne
  | cons t' ts ih =>
    rcases ended_cons_iff.1 h with ⟨-, hnil⟩ | ⟨-, h⟩
    · simp at hnil
    · exact ih h

instance Ended.decidable : (ts : List Token) → Decidable (Ended ts)
  | [] => isFalse nofun
  | _ :: ts =>
    have := Ended.decidable ts
    decidable_of_iff _ ended_cons_iff.symm

/-- The tokens of a stream. -/
def Stream.tokens (s : Stream) : List Token := s.current :: s.rest

theorem Stream.exists_tokens_eq {tokens : List Token} (h : tokens ≠ []) :
    ∃ s : Stream, s.tokens = tokens := by
  obtain ⟨t, rest, rfl⟩ := List.exists_cons_of_ne_nil h
  exact ⟨⟨t, rest⟩, rfl⟩

namespace Stream

variable {s s' : Stream} {u : List Token}

/-- The last token stays. -/
theorem next_of_rest_eq_nil (h : s.rest = []) : s.next = s := by
  obtain ⟨current, rest⟩ := s
  cases h
  rfl

/-- A single token is all that can be taken, and it stays. -/
theorem Leads.of_rest_eq_nil (h : s.Leads u s') (hs : s.rest = []) :
    s' = s ∧ ∀ t ∈ u, t = s.current := by
  induction h with
  | nil s => exact ⟨rfl, nofun⟩
  | @cons s _ _ _ ih =>
    rw [next_of_rest_eq_nil hs] at ih
    obtain ⟨heq, hall⟩ := ih hs
    exact ⟨heq, List.forall_mem_cons.2 ⟨rfl, hall⟩⟩

/-- Tokens with other texts than the one behind them are used up. -/
theorem Leads.tokens_eq (h : s.Leads u s') (hne : ∀ t ∈ u, t.text ≠ s'.current.text) :
    s.tokens = u ++ s'.tokens := by
  induction h with
  | nil s => rfl
  | @cons s s' u hnext ih =>
    obtain ⟨hcurrent, hrest⟩ := List.forall_mem_cons.1 hne
    obtain ⟨current, rest⟩ := s
    cases rest with
    | nil =>
      obtain ⟨rfl, -⟩ := hnext.of_rest_eq_nil rfl
      exact absurd rfl hcurrent
    | cons t rest => exact congrArg _ (ih hrest)

end Stream

/-- A stream leads over the tokens it has in front of another. -/
theorem Stream.leads_of_tokens_eq {s r : Stream} {u : List Token} (h : s.tokens = u ++ r.tokens) :
    s.Leads u r := by
  induction u generalizing s with
  | nil =>
    obtain rfl : s = r := by
      cases s
      cases r
      simpa [Stream.tokens] using h
    exact .nil s
  | cons t u ih =>
    obtain ⟨current, rest⟩ := s
    obtain ⟨rfl, hrest⟩ := List.cons.inj h
    cases rest with
    | nil => simp [Stream.tokens] at hrest
    | cons t' rest => exact .cons (ih hrest)

/-- A token that is not the last one is used up. -/
theorem Ended.next {s : Stream} (h : Ended s.tokens) (hne : s.current.text ≠ "") :
    Ended s.next.tokens ∧ s.tokens = s.current :: s.next.tokens := by
  obtain ⟨current, rest⟩ := s
  cases h with
  | stop h => exact absurd h hne
  | cons _ h =>
    cases rest with
    | nil => cases h
    | cons t rest => exact ⟨h, rfl⟩

theorem Ended.ne_nil {tokens : List Token} (h : Ended tokens) : tokens ≠ [] := by
  cases h <;> simp

/-- Over tokens that are not empty, an ended stream leads to an ended one. -/
theorem Ended.leads {s r : Stream} {u : List Token} (h : Ended s.tokens) (hsr : s.Leads u r)
    (hu : ∀ t ∈ u, t.text ≠ "") : Ended r.tokens ∧ s.tokens = u ++ r.tokens := by
  induction hsr with
  | nil s => exact ⟨h, rfl⟩
  | @cons s r u _ ih =>
    obtain ⟨hcurrent, hu⟩ := List.forall_mem_cons.1 hu
    obtain ⟨hnext, heq⟩ := h.next hcurrent
    obtain ⟨hr, heq'⟩ := ih hnext hu
    exact ⟨hr, by rw [heq, heq', List.cons_append]⟩

/-! ## Runs of parsers -/

namespace Parser

variable {α β : Type} {p : Parser α} {f : α → Parser β} {s s' : Stream} {a : α} {e : SyntaxError}

theorem pure_run (a : α) (s : Stream) : (pure a : Parser α) s = .ok (a, s) := rfl

theorem bind_of_ok (h : p s = .ok (a, s')) (f : α → Parser β) : (p >>= f) s = f a s' := by
  change (p s >>= fun x => f x.1 x.2) = _
  rw [h]
  rfl

theorem bind_of_error (h : p s = .error e) (f : α → Parser β) : (p >>= f) s = .error e := by
  change (p s >>= fun x => f x.1 x.2) = _
  rw [h]
  rfl

/-- Two parsers in a row succeed if both do. -/
theorem bind_eq_ok_iff {b : β} {s'' : Stream} :
    (p >>= f) s = .ok (b, s'') ↔ ∃ a s', p s = .ok (a, s') ∧ f a s' = .ok (b, s'') := by
  cases h : p s with
  | ok x =>
    obtain ⟨a, s'⟩ := x
    rw [bind_of_ok h]
    simp
  | error e =>
    rw [bind_of_error h]
    simp

/-- Two parsers in a row fail if the first does, or the second behind it. -/
theorem bind_eq_error_iff :
    (p >>= f) s = .error e ↔ p s = .error e ∨ ∃ a s', p s = .ok (a, s') ∧ f a s' = .error e := by
  cases h : p s with
  | ok x =>
    obtain ⟨a, s'⟩ := x
    rw [bind_of_ok h]
    simp
  | error e =>
    rw [bind_of_error h]
    simp

end Parser

section

variable {test : String → Bool} {s : Stream}

theorem eat_yes (h : test s.current.text = true) : eat test s = .ok (true, s.next) := by
  change (if test s.current.text then _ else _ : Parser Bool) s = _
  rw [if_pos h]
  rfl

theorem eat_no (h : test s.current.text = false) : eat test s = .ok (false, s) := by
  change (if test s.current.text then _ else _ : Parser Bool) s = _
  rw [if_neg (by simp [h])]
  rfl

theorem ifEat_yes {α : Type} {p p' : Parser α} (h : test s.current.text = true) :
    (do if ← eat test then p else p') s = p s.next := by
  rw [Parser.bind_of_ok (eat_yes h), if_pos rfl]

/-- A token that does not pass the test leads to the second branch and stays. -/
theorem ifEat_no {α : Type} {p p' : Parser α} (h : test s.current.text = false) :
    (do if ← eat test then p else p') s = p' s := by
  rw [Parser.bind_of_ok (eat_no h), if_neg Bool.false_ne_true]

/-- A failure stands at the current token and says its text. -/
theorem failHere_run {α : Type} (cause : String → SyntaxCause) (s : Stream) :
    (failHere cause : Parser α) s = .error ⟨s.current.position, cause s.current.text⟩ :=
  rfl

theorem expect_yes (h : test s.current.text = true) (wanted : Wanted) :
    expect test wanted s = .ok (s.current, s.next) := by
  change (eat test >>= fun b => if b then pure s.current else failHere (.expected wanted)) s = _
  rw [Parser.bind_of_ok (eat_yes h)]
  rfl

/-- A token that does not pass the test is reported with what was wanted. -/
theorem expect_no (h : test s.current.text = false) (wanted : Wanted) :
    expect test wanted s = .error ⟨s.current.position, .expected wanted s.current.text⟩ := by
  change (eat test >>= fun b => if b then pure s.current else failHere (.expected wanted)) s = _
  rw [Parser.bind_of_ok (eat_no h)]
  rfl

end

/-- Parsing tokens is parsing the items of no namespace, with the bound that the length gives. -/
theorem parseTokens_tokens (s : Stream) (label : String) :
    parseTokens s.tokens label =
      (parseItems (nestingBound s.tokens.length) none s).map fun x => ⟨label, x.1⟩ := by
  change (Prod.fst <$> parseItems (nestingBound s.tokens.length) none s >>= fun definitions =>
    pure (⟨label, definitions⟩ : SourceFile)) = _
  cases parseItems (nestingBound s.tokens.length) none s <;> rfl

theorem parseTokens_eq_ok_iff {s : Stream} {label : String} {file : SourceFile} :
    parseTokens s.tokens label = .ok file ↔
      ∃ x, parseItems (nestingBound s.tokens.length) none s = .ok x ∧ ⟨label, x.1⟩ = file := by
  rw [parseTokens_tokens]
  cases parseItems (nestingBound s.tokens.length) none s <;> simp [Except.map]

theorem parseTokens_eq_error_iff {s : Stream} {label : String} {e : SyntaxError} :
    parseTokens s.tokens label = .error e ↔
      parseItems (nestingBound s.tokens.length) none s = .error e := by
  rw [parseTokens_tokens]
  cases parseItems (nestingBound s.tokens.length) none s <;> simp [Except.map]

/-! ## Tests on texts -/

theorem isWordStart_iff {c : Char} : isWordStart c = true ↔ IsLetter c := by
  have hranges : isWordStart c = (decide ('A' ≤ c ∧ c ≤ 'Z') ||
      (decide ('a' ≤ c) && decide (c ≤ 'z')) || c == '_') := rfl
  simp only [hranges, IsLetter, Bool.or_eq_true, Bool.and_eq_true, decide_eq_true_eq, beq_iff_eq,
    or_assoc]

theorem isDigit_iff {c : Char} : c.isDigit = true ↔ IsDigit c := by
  simp [Char.isDigit, IsDigit, Char.le_def]

theorem isWordRest_iff {c : Char} : isWordRest c = true ↔ IsLetter c ∨ IsDigit c := by
  rw [← isWordStart_iff, ← isDigit_iff]
  simp only [isWordRest, isWordStart, Char.isAlphanum, Bool.or_eq_true]
  tauto

/-- The test of the parser finds exactly the names. -/
theorem isIdentifier_iff {text : String} : isIdentifier text = true ↔ IsName text := by
  rw [isIdentifier, IsName]
  cases text.toList with
  | nil => simp
  | cons c rest => simp [isWordStart_iff, isWordRest_iff]

/-- A mark is a text of one character. -/
theorem isMark_iff {c : Char} {text : String} :
    isMark c text = true ↔ text = String.singleton c := by
  rw [isMark, beq_iff_eq]

/-- Digits have a value if they are digits and there are any. -/
theorem digitsValue?_eq_some_iff {digits : List Char} {n : Nat} :
    digitsValue? digits = some n ↔
      (digits ≠ [] ∧ ∀ c ∈ digits, IsDigit c) ∧ decimal digits = n := by
  have hfold : digits.foldl (fun n c => 10 * n + (c.toNat - '0'.toNat)) 0 = decimal digits := by
    rw [decimal, Nat.ofDigits_eq_foldr, List.foldr_map, List.foldr_reverse]
    simp [Nat.add_comm]
  rw [digitsValue?, hfold]
  simp [isDigit_iff]

theorem isAscii_of_le {c : Char} (h : c ≤ 'z') : Text.isAscii c = true :=
  decide_eq_true (Nat.lt_of_le_of_lt h (by decide : 'z'.toNat < 0x80))

/-- What can be checked for the code points of ASCII holds for its characters. -/
theorem forall_ascii (P : Char → Prop) (h : ∀ n < 128, P (Char.ofNat n)) {c : Char}
    (hc : Text.isAscii c = true) : P c := by
  have hchar := h c.toNat (of_decide_eq_true hc)
  rwa [Char.ofNat_toNat] at hchar

theorem IsLetter.isAscii {c : Char} (h : IsLetter c) : Text.isAscii c = true := by
  rcases h with ⟨-, hle⟩ | ⟨-, hle⟩ | rfl
  · exact isAscii_of_le (Char.le_trans hle (by decide))
  · exact isAscii_of_le hle
  · rfl

theorem IsDigit.isAscii {c : Char} (h : IsDigit c) : Text.isAscii c = true :=
  isAscii_of_le (Char.le_trans h.2 (by decide))

/-- The digits of ASCII are decimal digits. -/
theorem IsDigit.isDecimalDigit {c : Char} (h : IsDigit c) : Text.isDecimalDigit c = true := by
  rw [Text.isDecimalDigit, if_pos h.isAscii, isDigit_iff]
  exact h

/-- The integers of 64 bits. -/
theorem contains_iff {n : Int} : IntType.contains ⟨true, .w64⟩ n = true ↔
    -9223372036854775808 ≤ n ∧ n ≤ 9223372036854775807 := by
  rw [IntType.contains, Bool.and_eq_true, decide_eq_true_eq, decide_eq_true_eq]
  rfl

/-- The texts that stand for integers, and what they stand for. -/
theorem integerValue?_eq_some_iff {text : String} {n : Int} :
    integerValue? text = some n ↔ IsInteger text ∧ integerOf text = n := by
  have hvalue : integerValue? text =
      ((digitsValue? (digitsOf text)).map fun _ => integerOf text).filter
        (IntType.contains ⟨true, .w64⟩) := by
    rw [integerValue?, integerOf, digitsOf]
    generalize text.toList = chars
    split <;> cases h : digitsValue? _ with
    | none => simp_all
    | some m =>
      obtain ⟨-, rfl⟩ := digitsValue?_eq_some_iff.1 h
      simp_all
  rw [hvalue, IsInteger]
  simp only [Option.filter_eq_some_iff, Option.map_eq_some_iff, digitsValue?_eq_some_iff,
    contains_iff]
  constructor
  · rintro ⟨⟨_, ⟨⟨hne, hdigits⟩, rfl⟩, rfl⟩, hbounds⟩
    exact ⟨⟨hne, hdigits, hbounds⟩, rfl⟩
  · rintro ⟨⟨hne, hdigits, hbounds⟩, rfl⟩
    exact ⟨⟨_, ⟨⟨hne, hdigits⟩, rfl⟩, rfl⟩, hbounds⟩

/-- An integer passes the test of the parser. -/
theorem IsInteger.isInteger {text : String} (h : IsInteger text) : isInteger text = true := by
  have hdigits : (!(digitsOf text).isEmpty && (digitsOf text).all Text.isDecimalDigit) = true := by
    simpa using ⟨h.1, fun c hc => (h.2.1 c hc).isDecimalDigit⟩
  rw [digitsOf] at hdigits
  rw [Source.isInteger]
  generalize text.toList = chars at hdigits ⊢
  split <;> simp_all

/-- The widths are found under their names. -/
theorem ofName?_eq_some_iff {text : String} {w : Width} :
    Width.ofName? text = some w ↔ IsWidth text ∧ widthOf text = w := by
  constructor
  · intro h
    have hname := List.find?_some h
    rw [beq_iff_eq] at hname
    subst hname
    cases w <;> simp [IsWidth, widthOf, Width.unsignedName]
  · rintro ⟨rfl | rfl | rfl | rfl, rfl⟩ <;> rfl

theorem IsWidth.isIdentifier {text : String} (h : IsWidth text) : isIdentifier text = true := by
  rcases h with rfl | rfl | rfl | rfl <;> decide

end WireSchema.Source
