import WireSchema.Proofs.Source.Pieces

/-!
# Patterns of texts

Pieces of text are described by a pattern. Where a pattern can take text in several ways there is an
order of preference (`Pattern.ways`): of two alternatives the first one, of a repetition as much as
there is. The match at a place is the way that comes first. A pattern may look at the character in
front of the place and at the one behind what it takes, to see whether a word ends there.

`tokenPattern` is the pattern of all pieces and `gapPattern` that of the pieces between tokens. The
lexer takes what `tokenPattern` matches, and tells tokens and gaps apart by `gapPattern`
(`matchPiece_eq`).
-/

namespace WireSchema.Source

open WireSchema.Text

/-! ## Patterns -/

/-- A pattern of texts. -/
inductive Pattern
  /-- One character of a class. -/
  | one (test : Char → Bool)
  /-- Characters of a class, as many as there are. -/
  | many (test : Char → Bool)
  /-- The place between a word character and anything else. -/
  | boundary
  /-- One pattern behind another. -/
  | seq (p q : Pattern)
  /-- One of two patterns, preferably the first. -/
  | alt (p q : Pattern)

namespace Pattern

/-- The ways to take characters of a class off a text, the longest first. -/
def runs (test : Char → Bool) : List Char → List (List Char × List Char)
  | [] => [([], [])]
  | c :: s =>
    if test c then (runs test s).map (fun x => (c :: x.1, x.2)) ++ [([], c :: s)]
    else [([], c :: s)]

/-- The ways to take a text that follows the pattern off another one, behind the character `before`,
    in order of preference. -/
def ways : Pattern → Option Char → List Char → List (List Char × List Char)
  | one _, _, [] => []
  | one test, _, c :: s => if test c then [([c], s)] else []
  | many test, _, s => runs test s
  | boundary, before, s =>
    if before.any isWordChar != s.head?.any isWordChar then [([], s)] else []
  | seq p q, before, s =>
    (p.ways before s).flatMap fun x =>
      (q.ways (x.1.getLast?.or before) x.2).map fun y => (x.1 ++ y.1, y.2)
  | alt p q, before, s => p.ways before s ++ q.ways before s

/-- What the pattern matches at the start of a text behind the character `before`, and the rest. -/
def first (p : Pattern) (before : Option Char) (s : List Char) : Option (List Char × List Char) :=
  (p.ways before s).head?

/-- The pattern matches the text as a whole. -/
def Matches (p : Pattern) (s : List Char) : Prop :=
  (s, []) ∈ p.ways none s

instance (p : Pattern) (s : List Char) : Decidable (p.Matches s) :=
  inferInstanceAs (Decidable (_ ∈ _))

end Pattern

/-- Digits with nothing that touches them from behind: `\d+\b` -/
def digitsPattern : Pattern :=
  .seq (.one isDecimalDigit) (.seq (.many isDecimalDigit) .boundary)

/-- Integers: `(?:-|\b)\d+\b` -/
def integerPattern : Pattern :=
  .seq (.alt (.one (· == '-')) .boundary) digitsPattern

/-- Words: `\b[A-Za-z_][A-Za-z0-9_]*\b` -/
def wordPattern : Pattern :=
  .seq .boundary (.seq (.one isWordStart) (.seq (.many isWordRest) .boundary))

/-- Comments: `//.*` -/
def commentPattern : Pattern :=
  .seq (.one (· == '/')) (.seq (.one (· == '/')) (.many (· != '\n')))

/-- Blanks: `\s+` -/
def blanksPattern : Pattern :=
  .seq (.one isBlank) (.many isBlank)

/-- The pattern of pieces: integers, punctuation marks, words, comments and blanks. -/
def tokenPattern : Pattern :=
  .alt integerPattern <| .alt (.one marks.contains) <| .alt wordPattern <|
    .alt commentPattern blanksPattern

/-- The pattern of the pieces that are no tokens. -/
def gapPattern : Pattern :=
  .alt commentPattern blanksPattern

/-- What a piece is good for. -/
def kindOf (w : List Char) : PieceKind :=
  if gapPattern.Matches w then .gap else .token

/-! ## Runs of characters -/

namespace Pattern

variable {test : Char → Bool} {p q : Pattern} {before : Option Char} {c : Char} {s w : List Char}

/-- Behind a word character a run of word characters ends at a boundary only if it is the longest
    one. -/
theorem ways_many_boundary (htest : ∀ c, test c = true → isWordChar c = true)
    (hc : isWordChar c = true) (s : List Char) :
    (seq (many test) boundary).ways (some c) s =
      if touches (s.dropWhile test).head? then [] else [(s.takeWhile test, s.dropWhile test)] := by
  induction s generalizing c with
  | nil => simp [ways, runs, hc, touches]
  | cons d s ih =>
    cases hd : test d with
    | false =>
      cases hword : isWordChar d <;> simp [ways, runs, hc, hd, hword, touches]
    | true =>
      have hword := htest d hd
      have hstep : (seq (many test) boundary).ways (some c) (d :: s) =
          ((seq (many test) boundary).ways (some d) s).map fun x => (d :: x.1, x.2) := by
        simp [ways, runs, hd, hc, hword, List.map_flatMap, List.flatMap_map, List.getLast?_cons,
          Function.comp_def]
      rw [hstep, ih hword, List.takeWhile_cons_of_pos hd, List.dropWhile_cons_of_pos hd]
      split <;> rfl

/-- A run of characters is matched as a whole if all of them are of the class. -/
theorem mem_ways_many : (w, []) ∈ (many test).ways before w ↔ ∀ c ∈ w, test c = true := by
  rw [ways]
  induction w with
  | nil => simp [runs]
  | cons c w ih => cases hc : test c <;> simp [runs, hc, ih]

/-- One of two patterns is matched if either is. -/
theorem mem_ways_alt : (w, []) ∈ (alt p q).ways before w ↔
    (w, []) ∈ p.ways before w ∨ (w, []) ∈ q.ways before w :=
  List.mem_append

/-- A character and then a pattern. -/
theorem mem_ways_seq_one : (w, []) ∈ (seq (one test) q).ways before w ↔
    ∃ c v, w = c :: v ∧ test c = true ∧ (v, []) ∈ q.ways (some c) v := by
  cases w with
  | nil => simp [ways]
  | cons c v => cases hc : test c <;> simp [ways, hc]

/-- A pattern that begins with a character depends on the first one. -/
theorem first_seq_one_cons (test : Char → Bool) (q : Pattern) (before : Option Char) (c : Char)
    (s : List Char) : (seq (one test) q).first before (c :: s) =
      if test c then (q.first (some c) s).map fun x => (c :: x.1, x.2) else none := by
  cases hc : test c <;> simp [first, ways, hc]

/-- A boundary takes nothing, and is there if just one of its neighbours is a word character. -/
theorem first_seq_boundary (q : Pattern) (before : Option Char) (s : List Char) :
    (seq boundary q).first before s =
      if touches before != touches s.head? then q.first before s else none := by
  change ((if touches before != touches s.head? then [([], s)] else []).flatMap _).head? = _
  split <;> simp [first]

/-- The first pattern goes before the second. -/
theorem first_alt (p q : Pattern) (before : Option Char) (s : List Char) :
    (alt p q).first before s = (p.first before s).or (q.first before s) :=
  List.head?_append

/-- A run is taken as long as it goes. -/
theorem first_many (test : Char → Bool) (before : Option Char) (s : List Char) :
    (many test).first before s = some (s.takeWhile test, s.dropWhile test) := by
  rw [first, ways]
  induction s with
  | nil => rfl
  | cons c s ih => cases hc : test c <;> simp [runs, hc, ih]

end Pattern

/-! ## The parts of the pattern -/

section

open Pattern

variable {before : Option Char} {c : Char} {s : List Char}

/-- Digits are matched as the tokenizer matches them. -/
theorem first_digitsPattern (before : Option Char) (s : List Char) :
    digitsPattern.first before s = matchDigits s := by
  cases s with
  | nil => rfl
  | cons c s =>
    rw [digitsPattern, first_seq_one_cons]
    cases hc : isDecimalDigit c with
    | false => simp [matchDigits, hc]
    | true =>
      rw [first, ways_many_boundary (fun _ => isWordChar_of_isDecimalDigit)
        (isWordChar_of_isDecimalDigit hc)]
      cases ht : touches (s.dropWhile isDecimalDigit).head? <;> simp [matchDigits, hc, ht]

theorem matchDigits_of_not_digit (hc : isDecimalDigit c = false) (s : List Char) :
    matchDigits (c :: s) = none := by
  simp [matchDigits, hc]

/-- An integer begins with a minus sign, or with a digit that nothing touches. -/
theorem first_integerPattern (before : Option Char) (c : Char) (s : List Char) :
    integerPattern.first before (c :: s) =
      if c == '-' then (matchDigits s).map fun x => (c :: x.1, x.2)
      else if touches before then none else matchDigits (c :: s) := by
  have halt : integerPattern.first before (c :: s) =
      ((seq (one (· == '-')) digitsPattern).first before (c :: s)).or
        ((seq boundary digitsPattern).first before (c :: s)) := by
    simp [integerPattern, first, ways]
  rw [halt, first_seq_one_cons, first_seq_boundary, first_digitsPattern, first_digitsPattern]
  cases hminus : c == '-' with
  | true =>
    -- A minus is no digit, so that the second alternative has no match.
    obtain rfl := beq_iff_eq.1 hminus
    simp [matchDigits_of_not_digit (by decide : isDecimalDigit '-' = false)]
  | false =>
    cases hc : isDecimalDigit c with
    | true =>
      have hword : touches (some c) = true := isWordChar_of_isDecimalDigit hc
      cases touches before <;> simp [hword]
    | false => simp [matchDigits_of_not_digit hc]

/-- A word begins with a letter that nothing touches. -/
theorem first_wordPattern (before : Option Char) (c : Char) (s : List Char) :
    wordPattern.first before (c :: s) =
      if isWordStart c then
        if touches before then none else (matchWordRest s).map fun x => (c :: x.1, x.2)
      else none := by
  rw [wordPattern, first_seq_boundary, first_seq_one_cons]
  cases hc : isWordStart c with
  | false => simp
  | true =>
    have hword := isWordChar_of_isWordStart hc
    have htouch : touches (some c) = true := hword
    rw [first, ways_many_boundary (fun _ => isWordChar_of_isWordRest) hword]
    cases touches before <;> cases ht : touches (s.dropWhile isWordRest).head? <;>
      simp [htouch, matchWordRest, ht]

/-- A comment goes to the end of its line. -/
theorem first_commentPattern (before : Option Char) (s : List Char) :
    commentPattern.first before ('/' :: '/' :: s) =
      some ('/' :: '/' :: s.takeWhile (· != '\n'), s.dropWhile (· != '\n')) := by
  rw [commentPattern, first_seq_one_cons, first_seq_one_cons, first_many]
  rfl

theorem first_commentPattern_of_ne (hc : c ≠ '/') (s : List Char) :
    commentPattern.first before (c :: s) = none := by
  rw [commentPattern, first_seq_one_cons, if_neg (by simpa using hc)]

/-- Blanks are taken as long as they go. -/
theorem first_blanksPattern (before : Option Char) (c : Char) (s : List Char) :
    blanksPattern.first before (c :: s) =
      if isBlank c then some (c :: s.takeWhile isBlank, s.dropWhile isBlank) else none := by
  rw [blanksPattern, first_seq_one_cons, first_many]
  rfl

theorem first_tokenPattern_nil (before : Option Char) : tokenPattern.first before [] = none := by
  cases h : before.any isWordChar <;>
    simp [tokenPattern, integerPattern, digitsPattern, wordPattern, commentPattern, blanksPattern,
      first, ways, h]

/-! ## Gaps -/

/-- Gaps are comments in one line, and blanks. -/
theorem matches_gapPattern_iff {w : List Char} : gapPattern.Matches w ↔
    (∃ line, w = '/' :: '/' :: line ∧ '\n' ∉ line) ∨ w ≠ [] ∧ ∀ d ∈ w, isBlank d = true := by
  simp only [Matches, gapPattern, commentPattern, blanksPattern, mem_ways_alt, mem_ways_seq_one,
    mem_ways_many]
  refine or_congr ⟨?_, ?_⟩ ⟨?_, ?_⟩
  · rintro ⟨c, v, rfl, hc, d, line, rfl, hd, hline⟩
    obtain rfl := beq_iff_eq.1 hc
    obtain rfl := beq_iff_eq.1 hd
    exact ⟨line, rfl, fun hmem => by simpa using hline _ hmem⟩
  · rintro ⟨line, rfl, hline⟩
    exact ⟨'/', _, rfl, rfl, '/', line, rfl, rfl, fun d hd => by grind⟩
  · rintro ⟨c, v, rfl, hc, hv⟩
    exact ⟨by simp, List.forall_mem_cons.2 ⟨hc, hv⟩⟩
  · rintro ⟨hne, hw⟩
    obtain ⟨c, v, rfl⟩ := List.exists_cons_of_ne_nil hne
    exact ⟨c, v, rfl, List.forall_mem_cons.1 hw⟩

/-- What begins with neither a slash nor a blank is a token. -/
theorem kindOf_eq_token {w : List Char} (hslash : c ≠ '/') (hblank : isBlank c = false) :
    kindOf (c :: w) = .token := by
  refine if_neg fun h => ?_
  rcases matches_gapPattern_iff.1 h with ⟨line, heq, -⟩ | ⟨-, hblanks⟩
  · exact hslash (List.cons.inj heq).1
  · simp [hblank] at hblanks

theorem kindOf_comment {line : List Char} (h : '\n' ∉ line) :
    kindOf ('/' :: '/' :: line) = .gap :=
  if_pos (matches_gapPattern_iff.2 (.inl ⟨line, rfl, h⟩))

theorem kindOf_blanks {w : List Char} (hne : w ≠ []) (h : ∀ d ∈ w, isBlank d = true) :
    kindOf w = .gap :=
  if_pos (matches_gapPattern_iff.2 (.inr ⟨hne, h⟩))

/-! ## Pieces -/

/-- Digits are a token. -/
theorem kindOf_digits {x : List Char × List Char} (h : matchDigits s = some x) :
    kindOf x.1 = .token := by
  obtain ⟨digits, rest⟩ := x
  obtain ⟨rfl, hne, hdigits, -⟩ := matchDigits_eq_some_iff.1 h
  obtain ⟨c, digits, rfl⟩ := List.exists_cons_of_ne_nil hne
  obtain ⟨-, -, -, hslash, hblank⟩ := isDecimalDigit_disjoint (hdigits c List.mem_cons_self)
  exact kindOf_eq_token hslash hblank

/-- A slash begins a comment or nothing. -/
theorem matchPiece_slash (before : Option Char) (s : List Char) :
    matchPiece before ('/' :: s) =
      (commentPattern.first before ('/' :: s)).map fun x => (⟨kindOf x.1, x.1⟩, x.2) := by
  have hclass : ('/' == '-') = false ∧ isDecimalDigit '/' = false ∧ marks.contains '/' = false ∧
      isWordStart '/' = false := by decide
  obtain ⟨hminus, hdigit, hmark, hword⟩ := hclass
  simp only [matchPiece, hminus, hdigit, hmark, hword, Bool.false_eq_true, if_false,
    beq_self_eq_true, if_true]
  split
  · next s =>
    have hline : '\n' ∉ s.takeWhile (· != '\n') :=
      fun hmem => by simpa using List.all_eq_true.1 List.all_takeWhile _ hmem
    rw [first_commentPattern, Option.map_some, kindOf_comment hline]
  · next hslash =>
    rcases s with _ | ⟨d, s⟩
    · rfl
    · have hd : d ≠ '/' := fun hd => hslash s (hd ▸ rfl)
      simp [commentPattern, first_seq_one_cons, hd]

/-- The lexer takes the match of the pattern, and it is a token unless it is a gap. -/
theorem matchPiece_eq (before : Option Char) (s : List Char) :
    matchPiece before s =
      (tokenPattern.first before s).map fun x => (⟨kindOf x.1, x.1⟩, x.2) := by
  cases s with
  | nil => rw [first_tokenPattern_nil, matchPiece, Option.map_none]
  | cons c s =>
    have hmarks : (one marks.contains).first before (c :: s) =
        if c ∈ marks then some ([c], s) else none := by
      simp only [first, ways, List.contains_eq_mem, decide_eq_true_eq]
      split <;> rfl
    rw [tokenPattern, first_alt, first_alt, first_alt, first_alt, first_integerPattern,
      hmarks, first_wordPattern, first_blanksPattern]
    -- The alternatives differ in their first character: where one fails, so do those behind it.
    by_cases hminus : c = '-'
    · subst hminus
      have hkind (w : List Char) : kindOf ('-' :: w) = .token := kindOf_eq_token (by decide) rfl
      have hrest : '-' ∉ marks ∧ isWordStart '-' = false ∧ isBlank '-' = false := by decide
      simp [matchPiece, first_commentPattern_of_ne, hkind, hrest, Function.comp_def]
    by_cases hdigit : isDecimalDigit c = true
    · obtain ⟨-, hmark, hword, hslash, hblank⟩ := isDecimalDigit_disjoint hdigit
      have hmap : (matchDigits (c :: s)).map (fun x => (⟨.token, x.1⟩, x.2)) =
          (matchDigits (c :: s)).map fun x => ((⟨kindOf x.1, x.1⟩ : Piece), x.2) :=
        Option.map_congr fun x hx => by rw [kindOf_digits hx]
      rw [first_commentPattern_of_ne hslash]
      cases ht : touches before <;>
        simp [matchPiece, hminus, hdigit, hmark, hword, hblank, ht, hmap]
    rw [matchDigits_of_not_digit (by simpa using hdigit), ite_self]
    by_cases hmark : c ∈ marks
    · obtain ⟨-, -, -, hslash, hblank, -⟩ := marks_disjoint hmark
      have hkind : kindOf [c] = .token := kindOf_eq_token hslash hblank
      simp [matchPiece, hminus, hdigit, hmark, hkind]
    by_cases hword : isWordStart c = true
    · obtain ⟨-, -, -, hslash, hblank⟩ := isWordStart_disjoint hword
      have hkind (w : List Char) : kindOf (c :: w) = .token := kindOf_eq_token hslash hblank
      rw [first_commentPattern_of_ne hslash]
      cases ht : touches before <;>
        simp [matchPiece, hminus, hdigit, hmark, hword, hblank, hkind, ht, Function.comp_def]
    by_cases hslash : c = '/'
    · subst hslash
      have hblank : isBlank '/' = false := by decide
      simp [matchPiece_slash, hmark, hword, hblank]
    rw [first_commentPattern_of_ne hslash]
    by_cases hblank : isBlank c = true
    · have hkind := kindOf_blanks (by simp) (blanks_takeWhile hblank s)
      simp [matchPiece_blank, hminus, hmark, hword, hblank, hkind]
    simp [matchPiece, hminus, hdigit, hmark, hword, hslash, hblank]

end

end WireSchema.Source
