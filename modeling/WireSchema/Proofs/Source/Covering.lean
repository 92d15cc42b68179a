import Mathlib.Data.List.DropRight
import WireSchema.Proofs.Source.Lexing
import WireSchema.Proofs.Source.Pattern

/-!
# Covering a text by pieces

A text is covered from the left by pieces (`Covers`): runs of blanks, comments and what
`tokenPattern` matches at its place. Tokenizing covers as much of the text as can be covered. Its
tokens are those among the pieces; the place of each is given by the text in front of it alone
(`place`). Where pieces cover a text, they cover it as well if what follows is cut off, so that the
part in front of an error has the tokens that were found there (`tokenize_covering`).
-/

namespace WireSchema.Source

open WireSchema.Text

/-! ## Places -/

/-- The place behind a text. Its line is one more than the line breaks in the text, and its column
    is one more than the characters behind the last of them. -/
def place (s : List Char) : Position :=
  ⟨1 + s.count '\n', 1 + (s.rtakeWhile (· != '\n')).length⟩

/-- Places are counted character by character. -/
theorem step_place (s : List Char) (c : Char) : (place s).step c = place (s ++ [c]) := by
  cases hc : c == '\n' with
  | true =>
    obtain rfl := beq_iff_eq.1 hc
    simp [place, Position.step, Nat.add_assoc]
  | false =>
    have hne : c ≠ '\n' := by simpa using hc
    simp [place, Position.step, hne, Nat.add_assoc]

/-- The place behind two texts is that behind the second, counted from the first. -/
theorem advance_place (s w : List Char) : (place s).advance w = place (s ++ w) := by
  induction w generalizing s with
  | nil => rw [List.append_nil]; rfl
  | cons c w ih =>
    rw [Position.advance, List.foldl_cons, step_place, ← Position.advance, ih, List.append_assoc,
      List.singleton_append]

/-! ## Coverings -/

/-- A piece of a text, behind the text `before` and in front of the text `after`. -/
inductive PieceAt (before after : List Char) : Piece → Prop
  /-- Blanks or a comment. -/
  | gap {w : List Char} : GapAt after w → PieceAt before after ⟨.gap, w⟩
  /-- What the pattern matches at this place, if it is no gap. -/
  | token {w : List Char} : tokenPattern.first before.getLast? (w ++ after) = some (w, after) →
      ¬ gapPattern.Matches w → PieceAt before after ⟨.token, w⟩

/-- The text of pieces. -/
def flat (pieces : List Piece) : List Char :=
  pieces.flatMap Piece.text

/-- Pieces stand one behind the other between two texts. -/
inductive Covers : List Char → List Piece → List Char → Prop
  | nil {before after : List Char} : Covers before [] after
  | cons {before after : List Char} {piece : Piece} {pieces : List Piece} :
      PieceAt before (flat pieces ++ after) piece →
      Covers (before ++ piece.text) pieces after → Covers before (piece :: pieces) after

/-- The tokens among pieces behind the text `before`, each with its place. -/
def located : List Char → List Piece → List Token
  | _, [] => []
  | before, piece :: pieces =>
    (if piece.kind = .token then [⟨String.ofList piece.text, place before⟩] else []) ++
      located (before ++ piece.text) pieces

variable {before after rest rest' s : List Char} {piece : Piece} {pieces pieces' : List Piece}

@[simp]
theorem flat_nil : flat [] = [] := rfl

@[simp]
theorem flat_cons : flat (piece :: pieces) = piece.text ++ flat pieces := rfl

/-- The lexer takes the piece that stands at the start of a text. -/
theorem pieceAt_iff : PieceAt before after piece ↔
    matchPiece before.getLast? (piece.text ++ after) = some (piece, after) := by
  obtain ⟨kind, w⟩ := piece
  -- A token is what the pattern matches first and what is not all gap.
  have htoken : matchPiece before.getLast? (w ++ after) = some (⟨.token, w⟩, after) ↔
      tokenPattern.first before.getLast? (w ++ after) = some (w, after) ∧
        ¬ gapPattern.Matches w := by
    rw [matchPiece_eq, Option.map_eq_some_iff]
    constructor
    · rintro ⟨⟨v, rest⟩, hfirst, heq⟩
      obtain ⟨hpiece, rfl⟩ := Prod.mk.inj heq
      obtain ⟨hkind, rfl⟩ := Piece.mk.inj hpiece
      refine ⟨hfirst, fun hgap => ?_⟩
      rw [kindOf, if_pos hgap] at hkind
      cases hkind
    · rintro ⟨hfirst, hgap⟩
      exact ⟨(w, after), hfirst, by rw [kindOf, if_neg hgap]⟩
  cases kind with
  | gap =>
    constructor
    · rintro ⟨hgap⟩
      exact matchPiece_of_gapAt hgap
    · exact fun h => .gap (matchPiece_gap_iff.1 h).2
  | token =>
    rw [htoken]
    constructor
    · rintro (_ | ⟨hfirst, hgap⟩)
      exact ⟨hfirst, hgap⟩
    · rintro ⟨hfirst, hgap⟩
      exact .token hfirst hgap

/-- A piece stays one if what follows is cut off somewhere. -/
theorem PieceAt.cut (h : PieceAt before (after ++ rest) piece) : PieceAt before after piece := by
  have hhead : ∀ c ∈ after.head?, c ∈ (after ++ rest).head? := by
    cases after <;> simp
  cases h with
  | gap hgap =>
    cases hgap with
    | blanks hne hblanks hafter =>
      exact .gap (.blanks hne hblanks fun c hc => hafter c (hhead c hc))
    | comment hline hafter => exact .gap (.comment hline fun c hc => hafter c (hhead c hc))
  | @token w hfirst hgap =>
    have hmatch := pieceAt_iff.1 (.token hfirst hgap)
    refine pieceAt_iff.2 (matchPiece_of_tokenAt ((matchPiece_token_iff.1 hmatch).2.mono ?_))
    cases after with
    | nil => exact fun _ => rfl
    | cons c after => exact id

/-- Pieces that cover a text in front of another cover it at the end as well. -/
theorem Covers.cut (h : Covers before pieces rest) : Covers before pieces [] := by
  induction h with
  | nil => exact .nil
  | cons hpiece _ ih => exact .cons (by simpa using hpiece.cut) ih

/-- There are pieces up to a place where no piece begins. -/
theorem exists_covers (before s : List Char) :
    ∃ pieces rest, s = flat pieces ++ rest ∧ Covers before pieces rest ∧
      matchPiece (before ++ flat pieces).getLast? rest = none := by
  induction hn : s.length using Nat.strong_induction_on generalizing before s with
  | h n ih =>
    cases hmatch : matchPiece before.getLast? s with
    | none => exact ⟨[], s, rfl, .nil, by simpa using hmatch⟩
    | some x =>
      obtain ⟨piece, rest⟩ := x
      obtain ⟨hne, rfl⟩ := matchPiece_append hmatch
      obtain ⟨pieces, rest, rfl, hcovers, hstop⟩ :=
        ih _ (hn ▸ matchPiece_length hmatch) (before ++ piece.text) rest rfl
      refine ⟨piece :: pieces, rest, by simp, .cons (pieceAt_iff.2 hmatch) hcovers, ?_⟩
      simpa using hstop

/-- Up to a place where no piece begins there is only one covering, and all others are a part of
    it. -/
theorem Covers.isPrefix (h : Covers before pieces' rest') (hcovers : Covers before pieces rest)
    (hstop : matchPiece (before ++ flat pieces).getLast? rest = none)
    (heq : flat pieces ++ rest = flat pieces' ++ rest') : pieces' <+: pieces := by
  induction h generalizing pieces with
  | nil => exact List.nil_prefix
  | @cons before rest' piece' pieces' hpiece' _ ih =>
    have hmatch' := pieceAt_iff.1 hpiece'
    cases hcovers with
    | nil =>
      rw [flat_cons, flat_nil, List.nil_append, List.append_assoc] at heq
      rw [flat_nil, List.append_nil, heq, hmatch'] at hstop
      cases hstop
    | cons hpiece hcovers =>
      have hmatch := pieceAt_iff.1 hpiece
      simp only [flat_cons, List.append_assoc] at heq hstop
      rw [heq, hmatch', Option.some.injEq, Prod.mk.injEq] at hmatch
      obtain ⟨rfl, heq'⟩ := hmatch
      exact (List.prefix_cons_inj _).2
        (ih hcovers (by simpa using hstop) heq'.symm)

/-! ## Tokens -/

/-- Going over pieces gives their tokens the places that are counted from the start of the text. -/
theorem locateFrom_place (acc : List Token) (before : List Char) (pieces : List Piece) :
    locateFrom acc (place before) pieces =
      (acc.reverse ++ located before pieces, place (before ++ flat pieces)) := by
  induction pieces generalizing acc before with
  | nil => simp [locateFrom, located]
  | cons piece pieces ih =>
    obtain ⟨kind, w⟩ := piece
    cases kind <;> simp [locateFrom, located, advance_place, ih]

/-- Cutting finds the pieces that cover the text, up to where none matches. -/
theorem cutFrom_of_covers (h : Covers before pieces rest)
    (hstop : matchPiece (before ++ flat pieces).getLast? rest = none) (acc : List Piece) :
    cutFrom acc before.getLast? (flat pieces ++ rest) = (acc.reverse ++ pieces, rest) := by
  induction h generalizing acc with
  | nil => simpa using cutFrom_of_none (by simpa using hstop)
  | @cons before after piece pieces hpiece _ ih =>
    have hmatch := pieceAt_iff.1 hpiece
    have hlast : (before ++ piece.text).getLast? = piece.text.getLast? := by
      rw [List.getLast?_append_of_ne_nil _ (matchPiece_append hmatch).1]
    rw [flat_cons, List.append_assoc, cutFrom_of_some hmatch, ← hlast, ih (by simpa using hstop)]
    simp

/-- Tokenizing covers a text up to a place where no piece begins. -/
theorem tokenize_of_covers {text : String} (htext : text.toList = flat pieces ++ rest)
    (h : Covers [] pieces rest) (hstop : matchPiece (flat pieces).getLast? rest = none) :
    if rest = [] then tokenize text = .ok (located [] pieces ++ [⟨"", place (flat pieces)⟩])
    else ∃ cause, tokenize text = .error ⟨place (flat pieces), cause⟩ := by
  have hcut : cut text.toList = (pieces, rest) := by
    rw [htext]
    exact cutFrom_of_covers h hstop []
  have hlocate : locateFrom [] .start pieces = (located [] pieces, place (flat pieces)) :=
    locateFrom_place [] [] pieces
  split
  · next hrest => simp [tokenize, hcut, hlocate, hrest]
  · next hrest =>
    rw [tokenize, hcut]
    simp [hlocate, hrest]

/-- A text has tokens if pieces cover all of it; the tokens are those among the pieces, and the
    end. -/
theorem tokenize_eq_ok_iff_covers {text : String} {tokens : List Token} :
    tokenize text = .ok tokens ↔ ∃ pieces, text.toList = flat pieces ∧ Covers [] pieces [] ∧
      tokens = located [] pieces ++ [⟨"", place text.toList⟩] := by
  constructor
  · intro h
    obtain ⟨pieces, rest, htext, hcovers, hstop⟩ := exists_covers [] text.toList
    have htokenize := tokenize_of_covers htext hcovers hstop
    by_cases hrest : rest = []
    · subst hrest
      rw [List.append_nil] at htext
      rw [if_pos rfl, h] at htokenize
      exact ⟨pieces, htext, hcovers, htext ▸ Except.ok.inj htokenize⟩
    · rw [if_neg hrest, h] at htokenize
      obtain ⟨cause, hcause⟩ := htokenize
      cases hcause
  · rintro ⟨pieces, htext, hcovers, rfl⟩
    rw [← List.append_nil (flat pieces)] at htext
    have htokenize := tokenize_of_covers htext hcovers rfl
    rwa [if_pos rfl, ← List.append_nil (flat pieces), ← htext] at htokenize

/-- Tokenizing loses nothing, and places are exact. A text has tokens if pieces cover it as a whole;
    they are those among the pieces with the place behind what is in front of them, and an empty one
    at the end. An error is reported at the first character that cannot be covered, and the text in
    front of it has the tokens found so far. -/
theorem tokenize_covering (text : String) :
    (∀ tokens, tokenize text = .ok tokens ↔ ∃ pieces, text.toList = flat pieces ∧
      Covers [] pieces [] ∧ tokens = located [] pieces ++ [⟨"", place text.toList⟩]) ∧
    ∀ e, tokenize text = .error e → ∃ pieces c rest, text.toList = flat pieces ++ c :: rest ∧
      Covers [] pieces (c :: rest) ∧
      (∀ pieces' rest', text.toList = flat pieces' ++ rest' → Covers [] pieces' rest' →
        flat pieces' <+: flat pieces) ∧
      e.position = place (flat pieces) ∧
      tokenize (String.ofList (flat pieces)) =
        .ok (located [] pieces ++ [⟨"", place (flat pieces)⟩]) := by
  refine ⟨fun tokens => tokenize_eq_ok_iff_covers, fun e h => ?_⟩
  obtain ⟨pieces, rest, htext, hcovers, hstop⟩ := exists_covers [] text.toList
  have htokenize := tokenize_of_covers htext hcovers hstop
  cases rest with
  -- All of the text was covered, so there was no error.
  | nil =>
    rw [if_pos rfl, h] at htokenize
    cases htokenize
  | cons c rest =>
    rw [if_neg (by simp), h] at htokenize
    obtain ⟨cause, hcause⟩ := htokenize
    refine ⟨pieces, c, rest, htext, hcovers, fun pieces' rest' htext' hcovers' => ?_, ?_, ?_⟩
    · obtain ⟨more, rfl⟩ := hcovers'.isPrefix hcovers hstop (htext.symm.trans htext')
      exact ⟨flat more, List.flatMap_append.symm⟩
    · rw [Except.error.inj hcause]
    · rw [tokenize_eq_ok_iff_covers, String.toList_ofList]
      exact ⟨pieces, rfl, hcovers.cut, rfl⟩

/-- A word, a comment, a line break with blanks, an integer and a character of no token. -/
def strayText : String := "a // é\n  1 §"

/-- The stray character is found behind a comment with a wide character, in the second line. -/
theorem tokenize_covering_strayText :
    tokenize strayText = .error ⟨⟨2, 5⟩, .stray "§"⟩ ∧
      ∃ pieces c rest, strayText.toList = flat pieces ++ c :: rest ∧
        Covers [] pieces (c :: rest) ∧ ⟨2, 5⟩ = place (flat pieces) ∧
        tokenize (String.ofList (flat pieces)) =
          .ok (located [] pieces ++ [⟨"", place (flat pieces)⟩]) := by
  have herror : tokenize strayText = .error ⟨⟨2, 5⟩, .stray "§"⟩ := by decide +kernel
  obtain ⟨pieces, c, rest, htext, hcovers, -, hplace, htokenize⟩ :=
    (tokenize_covering strayText).2 _ herror
  exact ⟨herror, pieces, c, rest, htext, hcovers, hplace, htokenize⟩

end WireSchema.Source
