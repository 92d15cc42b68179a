import WireSchema.Source.Token
import WireSchema.Text.Blank
import WireSchema.Text.DecimalDigit
import WireSchema.Text.WordChar

/-!
# Cutting text into tokens

Text is cut into pieces from the left. A piece is a token, or a gap of blanks or a comment up to the
end of its line. Tokens are integers, punctuation marks and ASCII words; an integer or a word has to
stand alone, so no word character may touch it. The text is in error at the first place where no
piece begins.

  * `cut` — the pieces of a text and what is left behind them.
  * `tokenize` — the tokens of a text with their places, and an empty token at the end.
-/

namespace WireSchema.Source

open WireSchema.Text

/-- What a piece of text is good for. -/
inductive PieceKind
  /-- A token. -/
  | token
  /-- Blanks or a comment. -/
  | gap
deriving DecidableEq

/-- A piece of text. -/
structure Piece where
  kind : PieceKind
  text : List Char
deriving DecidableEq

/-- The punctuation marks. -/
def marks : List Char :=
  ['=', ';', ':', ',', '.', '<', '>', '\x7b', '\x7d', '[', ']']

/-- Can an ASCII word begin with `c`? -/
def isWordStart (c : Char) : Bool :=
  c.isAlpha || c == '_'

/-- Can an ASCII word go on with `c`? -/
def isWordRest (c : Char) : Bool :=
  c.isAlphanum || c == '_'

/-- Would a word that ends or begins here run into its neighbour? -/
def touches (neighbour : Option Char) : Bool :=
  neighbour.any isWordChar

/-- A run of digits at the start of a text that no word character touches from behind. -/
def matchDigits (s : List Char) : Option (List Char × List Char) :=
  let digits := s.takeWhile isDecimalDigit
  let rest := s.dropWhile isDecimalDigit
  if digits.isEmpty || touches rest.head? then none else some (digits, rest)

/-- A run of word characters behind the first one of a word, with nothing that touches it. -/
def matchWordRest (s : List Char) : Option (List Char × List Char) :=
  let rest := s.dropWhile isWordRest
  if touches rest.head? then none else some (s.takeWhile isWordRest, rest)

/-- The piece at the start of a text, and the rest. `before` is the character in front. -/
def matchPiece (before : Option Char) : List Char → Option (Piece × List Char)
  | [] => none
  | c :: s =>
    if c == '-' then
      (matchDigits s).map fun (digits, rest) => (⟨.token, c :: digits⟩, rest)
    else if isDecimalDigit c then
      if touches before then none
      else (matchDigits (c :: s)).map fun (digits, rest) => (⟨.token, digits⟩, rest)
    else if marks.contains c then some (⟨.token, [c]⟩, s)
    else if isWordStart c then
      if touches before then none
      else (matchWordRest s).map fun (word, rest) => (⟨.token, c :: word⟩, rest)
    else if c == '/' then
      match s with
      | '/' :: s =>
        some (⟨.gap, '/' :: '/' :: s.takeWhile (· != '\n')⟩, s.dropWhile (· != '\n'))
      | _ => none
    else if isBlank c then some (⟨.gap, c :: s.takeWhile isBlank⟩, s.dropWhile isBlank)
    else none

/-- Dropping a run of digits, which is not empty, shortens a text. -/
theorem matchDigits_length {s digits rest : List Char}
    (h : matchDigits s = some (digits, rest)) : rest.length < s.length := by
  unfold matchDigits at h
  simp only [Option.ite_none_left_eq_some, Bool.or_eq_true, not_or, Option.some.injEq,
    Prod.mk.injEq] at h
  obtain ⟨⟨hne, _⟩, rfl, rfl⟩ := h
  have hsplit :=
    congrArg List.length (List.takeWhile_append_dropWhile (p := isDecimalDigit) (l := s))
  have hpos : 0 < (s.takeWhile isDecimalDigit).length := by
    cases hd : s.takeWhile isDecimalDigit with
    | nil => simp [hd] at hne
    | cons => simp
  simp only [List.length_append] at hsplit
  omega

/-- Every piece takes something off the text. -/
theorem matchPiece_length {before : Option Char} {s rest : List Char} {p : Piece}
    (h : matchPiece before s = some (p, rest)) : rest.length < s.length := by
  unfold matchPiece at h
  split at h
  · simp at h
  · rename_i c s
    split at h
    · obtain ⟨⟨digits, r⟩, hd, hp⟩ := Option.map_eq_some_iff.1 h
      have := matchDigits_length hd
      simp only [Prod.mk.injEq] at hp
      obtain ⟨_, rfl⟩ := hp
      simp only [List.length_cons]
      omega
    split at h
    · split at h
      · simp at h
      · obtain ⟨⟨digits, r⟩, hd, hp⟩ := Option.map_eq_some_iff.1 h
        have := matchDigits_length hd
        simp only [Prod.mk.injEq] at hp
        obtain ⟨_, rfl⟩ := hp
        exact this
    split at h
    · simp only [Option.some.injEq, Prod.mk.injEq] at h
      obtain ⟨_, rfl⟩ := h
      simp
    split at h
    · split at h
      · simp at h
      · obtain ⟨⟨word, r⟩, hw, hp⟩ := Option.map_eq_some_iff.1 h
        simp only [Prod.mk.injEq] at hp
        obtain ⟨_, rfl⟩ := hp
        unfold matchWordRest at hw
        simp only [Option.ite_none_left_eq_some, Option.some.injEq, Prod.mk.injEq] at hw
        obtain ⟨_, _, rfl⟩ := hw
        have := (List.dropWhile_sublist isWordRest (l := s)).length_le
        simp only [List.length_cons]
        omega
    split at h
    · split at h
      · rename_i s
        simp only [Option.some.injEq, Prod.mk.injEq] at h
        obtain ⟨_, rfl⟩ := h
        have := (List.dropWhile_sublist (· != '\n') (l := s)).length_le
        simp only [List.length_cons]
        omega
      · simp at h
    split at h
    · simp only [Option.some.injEq, Prod.mk.injEq] at h
      obtain ⟨_, rfl⟩ := h
      have := (List.dropWhile_sublist isBlank (l := s)).length_le
      simp only [List.length_cons]
      omega
    · simp at h

/-- Cuts the pieces off a text, behind those already cut, which are given last first. -/
def cutFrom (pieces : List Piece) (before : Option Char) (s : List Char) :
    List Piece × List Char :=
  match _h : matchPiece before s with
  | none => (pieces.reverse, s)
  | some (p, rest) => cutFrom (p :: pieces) p.text.getLast? rest
termination_by s.length
decreasing_by exact matchPiece_length _h

/-- The pieces of a text, and what is left behind the last one. -/
def cut (s : List Char) : List Piece × List Char :=
  cutFrom [] none s

/-- The part of a text in front of the next piece. -/
def strayPart (before : Option Char) : List Char → List Char
  | [] => []
  | c :: s =>
    if (matchPiece before (c :: s)).isSome then [] else c :: strayPart (some c) s

/-- The tokens among pieces with their places, behind those already found, which are given last
    first, and the place behind the last piece. -/
def locateFrom (tokens : List Token) (p : Position) : List Piece → List Token × Position
  | [] => (tokens.reverse, p)
  | piece :: pieces =>
    let tokens :=
      match piece.kind with
      | .token => ⟨String.ofList piece.text, p⟩ :: tokens
      | .gap => tokens
    locateFrom tokens (p.advance piece.text) pieces

/-- The tokens of a text, followed by an empty one at its end. -/
def tokenize (text : String) : Except SyntaxError (List Token) :=
  let (pieces, rest) := cut text.toList
  let (tokens, p) := locateFrom [] .start pieces
  if rest.isEmpty then .ok (tokens ++ [⟨"", p⟩])
  else
    let before := pieces.getLast?.bind fun piece => piece.text.getLast?
    .error ⟨p, .stray (String.ofList (strayPart before rest))⟩

end WireSchema.Source
