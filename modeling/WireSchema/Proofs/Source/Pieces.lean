import WireSchema.Proofs.Source.Runs

/-!
# Pieces of text

What stands at the start of a text is a piece if it has one of six shapes: the four of a token
(`TokenAt`) and the two of a gap (`GapAt`). Each is said of the characters of the piece and of its
two neighbours, and nothing else of the text matters (`matchPiece_token_iff`,
`matchPiece_gap_iff`).
-/

namespace WireSchema.Source

open WireSchema.Text

/-! ## Tables -/

section

variable {table other : List CharRange} {c : Char}

/-- Tables are disjoint if no two of their ranges meet. -/
theorem inTable_eq_false
    (h : ∀ r ∈ table, ∀ r' ∈ other, r.last < r'.first ∨ r'.last < r.first)
    (hc : inTable table c = true) : inTable other c = false := by
  simp only [inTable, List.any_eq_true, CharRange.contains, Bool.and_eq_true,
    decide_eq_true_eq] at hc
  obtain ⟨r, hr, ⟨hfirst, hlast⟩, -⟩ := hc
  simp only [inTable, List.any_eq_false, CharRange.contains, Bool.and_eq_true, decide_eq_true_eq]
  rintro r' hr' ⟨⟨hfirst', hlast'⟩, -⟩
  have := h r hr r' hr'
  omega

/-- Does a range without gaps hold all of another one? -/
def covers (r r' : CharRange) : Bool :=
  r.first ≤ r'.first && r'.last ≤ r.last && r.stride == 1

/-- A table lies in another one if no range is left after those of the other one have been taken in
    their order, each with all that it covers at the front. -/
theorem inTable_of_covers
    (h : other.foldl (fun table r => table.dropWhile (covers r)) table = [])
    (hc : inTable table c = true) : inTable other c = true := by
  simp only [inTable, List.any_eq_true] at hc ⊢
  obtain ⟨r', hr', hc⟩ := hc
  induction other generalizing table with
  | nil =>
    rw [List.foldl_nil] at h
    simp [h] at hr'
  | cons r other ih =>
    rw [← List.takeWhile_append_dropWhile (p := covers r) (l := table), List.mem_append] at hr'
    rcases hr' with hr' | hr'
    · refine ⟨r, List.mem_cons_self, ?_⟩
      have hcovers := List.all_eq_true.1 List.all_takeWhile r' hr'
      simp only [covers, CharRange.contains, Bool.and_eq_true, decide_eq_true_eq,
        beq_iff_eq] at hcovers hc ⊢
      exact ⟨⟨by omega, by omega⟩, by rw [hcovers.2, Nat.mod_one]⟩
    · obtain ⟨r, hr, hc⟩ := ih h hr'
      exact ⟨r, List.mem_cons_of_mem _ hr, hc⟩

end

/-! ## Classes of characters -/

section

variable {c : Char}

/-- Digits are word characters, those beyond ASCII as well. -/
theorem isWordChar_of_isDecimalDigit (h : isDecimalDigit c = true) : isWordChar c = true := by
  cases hascii : isAscii c with
  | true =>
    rw [isDecimalDigit, if_pos hascii] at h
    rw [isWordChar, if_pos hascii, Char.isAlphanum, h, Bool.or_true, Bool.true_or]
  | false =>
    rw [isDecimalDigit, if_neg (by simp [hascii])] at h
    rw [isWordChar, if_neg (by simp [hascii])]
    exact inTable_of_covers (by decide +kernel) h

/-- What a word goes on with is a word character. -/
theorem isWordChar_of_isWordRest (h : isWordRest c = true) : isWordChar c = true := by
  have hascii := (isWordRest_iff.1 h).elim IsLetter.isAscii IsDigit.isAscii
  rwa [isWordChar, if_pos hascii]

theorem isWordChar_of_isWordStart (h : isWordStart c = true) : isWordChar c = true :=
  isWordChar_of_isWordRest (isWordRest_iff.2 (.inl (isWordStart_iff.1 h)))

/-- A blank starts no token and no comment, and no word touches it. -/
theorem isBlank_disjoint (h : isBlank c = true) :
    c ≠ '-' ∧ isDecimalDigit c = false ∧ c ∉ marks ∧ isWordStart c = false ∧ c ≠ '/' ∧
      isWordChar c = false := by
  cases hascii : isAscii c with
  | true =>
    exact forall_ascii (fun c => isBlank c = true → c ≠ '-' ∧ isDecimalDigit c = false ∧
      c ∉ marks ∧ isWordStart c = false ∧ c ≠ '/' ∧ isWordChar c = false)
      (by decide +kernel) hascii h
  | false =>
    -- Words and marks start with ASCII, and the other classes are tables whose ranges do not meet.
    have hne {d : Char} (hd : isAscii d = true) : c ≠ d := by
      rintro rfl
      simp [hascii] at hd
    have hmarks : marks.all isAscii = true := by decide
    rw [isBlank, if_neg (by simp [hascii])] at h
    have hword : isWordChar c = false := by
      rw [isWordChar, if_neg (by simp [hascii])]
      exact inTable_eq_false (by decide +kernel) h
    refine ⟨hne rfl, ?_, fun hmem => hne (List.all_eq_true.1 hmarks c hmem) rfl, ?_, hne rfl, hword⟩
    · rw [Bool.eq_false_iff]
      intro hdigit
      simp [isWordChar_of_isDecimalDigit hdigit] at hword
    · rw [Bool.eq_false_iff]
      intro hstart
      exact hne (isWordStart_iff.1 hstart).isAscii rfl

/-- A letter starts no integer, no comment and no blanks, and is no mark. -/
theorem isWordStart_disjoint (h : isWordStart c = true) :
    c ≠ '-' ∧ isDecimalDigit c = false ∧ c ∉ marks ∧ c ≠ '/' ∧ isBlank c = false :=
  forall_ascii (fun c => isWordStart c = true →
      c ≠ '-' ∧ isDecimalDigit c = false ∧ c ∉ marks ∧ c ≠ '/' ∧ isBlank c = false)
    (by decide +kernel) (isWordStart_iff.1 h).isAscii h

/-- A mark starts no integer, no word, no comment and no blanks, and no word touches it. -/
theorem marks_disjoint (h : c ∈ marks) :
    c ≠ '-' ∧ isDecimalDigit c = false ∧ isWordStart c = false ∧ c ≠ '/' ∧ isBlank c = false ∧
      isWordChar c = false := by
  have hmarks : marks.all (fun c => c != '-' && !isDecimalDigit c && !isWordStart c && c != '/' &&
      !isBlank c && !isWordChar c) = true := by decide
  simpa [and_assoc] using List.all_eq_true.1 hmarks c h

/-- A digit is no mark and starts no word, no comment and no blanks. -/
theorem isDecimalDigit_disjoint (h : isDecimalDigit c = true) :
    c ≠ '-' ∧ c ∉ marks ∧ isWordStart c = false ∧ c ≠ '/' ∧ isBlank c = false := by
  have hne {d : Char} (hd : isDecimalDigit d = false) : c ≠ d := by
    rintro rfl
    simp [h] at hd
  refine ⟨hne rfl, fun hmem => hne (marks_disjoint hmem).2.1 rfl, ?_, hne rfl, ?_⟩
  · rw [Bool.eq_false_iff]
    exact fun hword => hne (isWordStart_disjoint hword).2.1 rfl
  · rw [Bool.eq_false_iff]
    exact fun hblank => hne (isBlank_disjoint hblank).2.1 rfl

end

/-! ## Runs of characters -/

/-- A text is split where the test fails for the first time. -/
theorem takeWhile_dropWhile_iff {α : Type} {test : α → Bool} {s w rest : List α} :
    s.takeWhile test = w ∧ s.dropWhile test = rest ↔
      s = w ++ rest ∧ (∀ a ∈ w, test a = true) ∧ ∀ a ∈ rest.head?, test a = false := by
  constructor
  · rintro ⟨rfl, rfl⟩
    refine ⟨List.takeWhile_append_dropWhile.symm, List.all_eq_true.1 List.all_takeWhile,
      fun a ha => ?_⟩
    have hnot := List.head?_dropWhile_not test s
    rw [Option.mem_def.1 ha] at hnot
    simpa using hnot
  · rintro ⟨rfl, hw, hrest⟩
    rw [List.takeWhile_append_of_pos hw, List.dropWhile_append_of_pos hw]
    cases rest with
    | nil => simp
    | cons a rest => simp [hrest a rfl]

/-- The line of a text is what comes in front of the first line break. -/
theorem line_iff {s line rest : List Char} :
    s.takeWhile (· != '\n') = line ∧ s.dropWhile (· != '\n') = rest ↔
      s = line ++ rest ∧ '\n' ∉ line ∧ ∀ c ∈ rest.head?, c = '\n' := by
  have hline : (∀ c ∈ line, (c != '\n') = true) ↔ '\n' ∉ line :=
    ⟨fun h hmem => by simpa using h _ hmem, fun h c hc => bne_iff_ne.2 fun heq => h (heq ▸ hc)⟩
  rw [takeWhile_dropWhile_iff, hline]
  simp only [bne_eq_false_iff_eq]

theorem blanks_takeWhile {c : Char} (hc : isBlank c = true) (s : List Char) :
    ∀ d ∈ c :: s.takeWhile isBlank, isBlank d = true :=
  List.forall_mem_cons.2 ⟨hc, List.all_eq_true.1 List.all_takeWhile⟩

/-- A neighbour that does not touch is of no class of word characters. -/
theorem not_of_not_touches {test : Char → Bool} {neighbour : Option Char}
    (htest : ∀ c, test c = true → isWordChar c = true) (h : touches neighbour = false) :
    ∀ c ∈ neighbour, test c = false := by
  rintro c rfl
  rw [Bool.eq_false_iff]
  intro hc
  exact Bool.false_ne_true (h.symm.trans (htest c hc))

/-- All digits are taken, and nothing may touch them from behind. -/
theorem matchDigits_eq_some_iff {s digits rest : List Char} :
    matchDigits s = some (digits, rest) ↔ s = digits ++ rest ∧ digits ≠ [] ∧
      (∀ c ∈ digits, isDecimalDigit c = true) ∧ touches rest.head? = false := by
  simp only [matchDigits, Option.ite_none_left_eq_some, Bool.or_eq_true, not_or,
    List.isEmpty_iff, Bool.not_eq_true, Option.some.injEq, Prod.mk.injEq]
  constructor
  · rintro ⟨⟨hne, htouch⟩, rfl, rfl⟩
    exact ⟨List.takeWhile_append_dropWhile.symm, hne, List.all_eq_true.1 List.all_takeWhile, htouch⟩
  · rintro ⟨rfl, hne, hdigits, htouch⟩
    obtain ⟨htake, hdrop⟩ := takeWhile_dropWhile_iff.2 ⟨rfl, hdigits,
      not_of_not_touches (fun _ => isWordChar_of_isDecimalDigit) htouch⟩
    rw [htake, hdrop]
    exact ⟨⟨hne, htouch⟩, rfl, rfl⟩

/-- All that a word goes on with is taken, and nothing may touch it from behind. -/
theorem matchWordRest_eq_some_iff {s word rest : List Char} :
    matchWordRest s = some (word, rest) ↔ s = word ++ rest ∧
      (∀ c ∈ word, isWordRest c = true) ∧ touches rest.head? = false := by
  simp only [matchWordRest, Option.ite_none_left_eq_some, Bool.not_eq_true, Option.some.injEq,
    Prod.mk.injEq]
  constructor
  · rintro ⟨htouch, rfl, rfl⟩
    exact ⟨List.takeWhile_append_dropWhile.symm, List.all_eq_true.1 List.all_takeWhile, htouch⟩
  · rintro ⟨rfl, hword, htouch⟩
    obtain ⟨htake, hdrop⟩ := takeWhile_dropWhile_iff.2 ⟨rfl, hword,
      not_of_not_touches (fun _ => isWordChar_of_isWordRest) htouch⟩
    rw [htake, hdrop]
    exact ⟨htouch, rfl, rfl⟩

/-! ## Tokens and gaps -/

/-- A token, behind the character `before` and in front of the text `after`. -/
inductive TokenAt (before : Option Char) (after : List Char) : List Char → Prop
  | negative {digits : List Char} : digits ≠ [] → (∀ c ∈ digits, isDecimalDigit c = true) →
      touches after.head? = false → TokenAt before after ('-' :: digits)
  | digits {digits : List Char} : touches before = false → digits ≠ [] →
      (∀ c ∈ digits, isDecimalDigit c = true) → touches after.head? = false →
      TokenAt before after digits
  | mark {c : Char} : c ∈ marks → TokenAt before after [c]
  | word {c : Char} {word : List Char} : touches before = false → isWordStart c = true →
      (∀ c ∈ word, isWordRest c = true) → touches after.head? = false →
      TokenAt before after (c :: word)

/-- Blanks or a comment in front of the text `after`. -/
inductive GapAt (after : List Char) : List Char → Prop
  | blanks {w : List Char} : w ≠ [] → (∀ c ∈ w, isBlank c = true) →
      (∀ c ∈ after.head?, isBlank c = false) → GapAt after w
  | comment {line : List Char} : '\n' ∉ line → (∀ c ∈ after.head?, c = '\n') →
      GapAt after ('/' :: '/' :: line)

variable {before before' : Option Char} {c : Char} {s rest after after' w : List Char}
  {piece : Piece}

/-- Of what follows a token it only matters whether it touches the token. -/
theorem TokenAt.mono (h : TokenAt before after w)
    (htouch : touches after.head? = false → touches after'.head? = false) :
    TokenAt before after' w := by
  cases h with
  | negative hne hdigits hafter => exact .negative hne hdigits (htouch hafter)
  | digits hbefore hne hdigits hafter => exact .digits hbefore hne hdigits (htouch hafter)
  | mark hmark => exact .mark hmark
  | word hbefore hstart hword hafter => exact .word hbefore hstart hword (htouch hafter)

/-- Of the character in front, only matters whether it touches. -/
theorem matchPiece_congr (h : touches before = touches before') (s : List Char) :
    matchPiece before s = matchPiece before' s := by
  cases s with
  | nil => rfl
  | cons c s => simp only [matchPiece, h]

/-- Blanks are a gap, as many as there are. -/
theorem matchPiece_blank (h : isBlank c = true) :
    matchPiece before (c :: s) = some (⟨.gap, c :: s.takeWhile isBlank⟩, s.dropWhile isBlank) := by
  obtain ⟨hminus, hdigit, hmark, hword, hslash, -⟩ := isBlank_disjoint h
  simp [matchPiece, hminus, hdigit, hmark, hword, hslash, h]

/-- A token is found where it stands. -/
theorem matchPiece_of_tokenAt (h : TokenAt before rest w) :
    matchPiece before (w ++ rest) = some (⟨.token, w⟩, rest) := by
  cases h with
  | @negative digits hne hdigits hrest =>
    have hmatch := matchDigits_eq_some_iff.2 ⟨rfl, hne, hdigits, hrest⟩
    simp [matchPiece, hmatch]
  | digits hbefore hne hdigits hrest =>
    have hmatch := matchDigits_eq_some_iff.2 ⟨rfl, hne, hdigits, hrest⟩
    obtain ⟨c, digits, rfl⟩ := List.exists_cons_of_ne_nil hne
    have hdigit := hdigits c List.mem_cons_self
    obtain ⟨hminus, -⟩ := isDecimalDigit_disjoint hdigit
    rw [List.cons_append] at hmatch
    simp [matchPiece, hminus, hdigit, hbefore, hmatch]
  | mark hmark =>
    obtain ⟨hminus, hdigit, -⟩ := marks_disjoint hmark
    simp [matchPiece, hminus, hdigit, hmark]
  | word hbefore hstart hword hrest =>
    have hmatch := matchWordRest_eq_some_iff.2 ⟨rfl, hword, hrest⟩
    obtain ⟨hminus, hdigit, hmark, -⟩ := isWordStart_disjoint hstart
    simp [matchPiece, hminus, hdigit, hmark, hstart, hbefore, hmatch]

/-- A gap is found where it stands. -/
theorem matchPiece_of_gapAt (h : GapAt rest w) :
    matchPiece before (w ++ rest) = some (⟨.gap, w⟩, rest) := by
  cases h with
  | blanks hne hblanks hrest =>
    obtain ⟨c, w, rfl⟩ := List.exists_cons_of_ne_nil hne
    obtain ⟨hc, hw⟩ := List.forall_mem_cons.1 hblanks
    obtain ⟨htake, hdrop⟩ := takeWhile_dropWhile_iff.2 ⟨rfl, hw, hrest⟩
    rw [List.cons_append, matchPiece_blank hc, htake, hdrop]
  | comment hline hrest =>
    obtain ⟨htake, hdrop⟩ := line_iff.2 ⟨rfl, hline, hrest⟩
    have hclass : isDecimalDigit '/' = false ∧ '/' ∉ marks ∧ isWordStart '/' = false := by decide
    simp [matchPiece, hclass, htake, hdrop]

/-- The six shapes are all that there are. -/
theorem shape_of_matchPiece (h : matchPiece before s = some (piece, rest)) :
    s = piece.text ++ rest ∧
      (piece.kind = .token ∧ TokenAt before rest piece.text ∨
        piece.kind = .gap ∧ GapAt rest piece.text) := by
  cases s with
  | nil => cases h
  | cons c s =>
    simp only [matchPiece] at h
    -- One case for each way to begin a piece, in the order in which they are tried.
    split_ifs at h with hminus hdigit htouch hmark hword htouch' hslash hblank
    · obtain ⟨⟨digits, r⟩, hdigits, heq⟩ := Option.map_eq_some_iff.1 h
      obtain ⟨rfl, rfl⟩ := Prod.mk.inj heq
      obtain ⟨rfl, hne, hdigits, hrest⟩ := matchDigits_eq_some_iff.1 hdigits
      obtain rfl := beq_iff_eq.1 hminus
      exact ⟨rfl, .inl ⟨rfl, .negative hne hdigits hrest⟩⟩
    · obtain ⟨⟨digits, r⟩, hdigits, heq⟩ := Option.map_eq_some_iff.1 h
      obtain ⟨rfl, rfl⟩ := Prod.mk.inj heq
      obtain ⟨heq, hne, hdigits, hrest⟩ := matchDigits_eq_some_iff.1 hdigits
      exact ⟨heq, .inl ⟨rfl, .digits (by simpa using htouch) hne hdigits hrest⟩⟩
    · obtain ⟨rfl, rfl⟩ := Prod.mk.inj (Option.some.inj h)
      exact ⟨rfl, .inl ⟨rfl, .mark (by simpa using hmark)⟩⟩
    · obtain ⟨⟨word, r⟩, hmatch, heq⟩ := Option.map_eq_some_iff.1 h
      obtain ⟨rfl, rfl⟩ := Prod.mk.inj heq
      obtain ⟨rfl, hrest, htouch⟩ := matchWordRest_eq_some_iff.1 hmatch
      exact ⟨rfl, .inl ⟨rfl, .word (by simpa using htouch') hword hrest htouch⟩⟩
    · split at h
      · next s =>
        obtain ⟨rfl, rfl⟩ := Prod.mk.inj (Option.some.inj h)
        obtain ⟨heq, hline, hrest⟩ := line_iff.1 ⟨rfl, rfl⟩
        obtain rfl := beq_iff_eq.1 hslash
        exact ⟨congrArg (fun s => '/' :: '/' :: s) heq, .inr ⟨rfl, .comment hline hrest⟩⟩
      · cases h
    · obtain ⟨rfl, rfl⟩ := Prod.mk.inj (Option.some.inj h)
      obtain ⟨heq, hblanks, hrest⟩ := takeWhile_dropWhile_iff.1
        ⟨(rfl : s.takeWhile isBlank = _), (rfl : s.dropWhile isBlank = _)⟩
      exact ⟨congrArg _ heq, .inr ⟨rfl, .blanks (by simp)
        (List.forall_mem_cons.2 ⟨hblank, hblanks⟩) hrest⟩⟩

theorem TokenAt.ne_nil (h : TokenAt before after w) : w ≠ [] := by
  cases h with
  | digits _ hne => exact hne
  | negative | mark | word => simp

theorem GapAt.ne_nil (h : GapAt after w) : w ≠ [] := by
  cases h with
  | blanks hne => exact hne
  | comment => simp

/-- A piece is a part of the text that is not empty. -/
theorem matchPiece_append (h : matchPiece before s = some (piece, rest)) :
    piece.text ≠ [] ∧ s = piece.text ++ rest := by
  obtain ⟨heq, ⟨-, htoken⟩ | ⟨-, hgap⟩⟩ := shape_of_matchPiece h
  · exact ⟨htoken.ne_nil, heq⟩
  · exact ⟨hgap.ne_nil, heq⟩

/-- The tokens that are found are those that stand at the front of the text. -/
theorem matchPiece_token_iff : matchPiece before s = some (⟨.token, w⟩, rest) ↔
    s = w ++ rest ∧ TokenAt before rest w := by
  constructor
  · intro h
    obtain ⟨heq, ⟨-, htoken⟩ | ⟨hkind, -⟩⟩ := shape_of_matchPiece h
    · exact ⟨heq, htoken⟩
    · cases hkind
  · rintro ⟨rfl, htoken⟩
    exact matchPiece_of_tokenAt htoken

/-- The gaps that are found are those that stand at the front of the text. -/
theorem matchPiece_gap_iff : matchPiece before s = some (⟨.gap, w⟩, rest) ↔
    s = w ++ rest ∧ GapAt rest w := by
  constructor
  · intro h
    obtain ⟨heq, ⟨hkind, -⟩ | ⟨-, hgap⟩⟩ := shape_of_matchPiece h
    · cases hkind
    · exact ⟨heq, hgap⟩
  · rintro ⟨rfl, hgap⟩
    exact matchPiece_of_gapAt hgap

end WireSchema.Source
