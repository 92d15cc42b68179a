import WireSchema.Proofs.Source.Pieces
import WireSchema.Proofs.Source.Relocation

/-!
# Texts and their tokens

How a text is cut into tokens is a relation (`Lexes`) between the text, where it stands and the
tokens in it. It can be followed from the left: tokens and comments are not changed by a line break
behind them, and blanks may be dropped one by one. So two texts can be cut one after the other if a
line break stands between them, or another blank and no comment in front (`Lexes.append_blank`).
-/

namespace WireSchema.Source

open WireSchema.Text

variable {before before' : Option Char} {c : Char} {s rest t : List Char} {piece : Piece}

/-- A blank behind a text touches no more than its end. -/
theorem touches_append_blank (hc : isBlank c = true) (s t : List Char) :
    touches (s ++ c :: t).head? = touches s.head? := by
  cases s with
  | nil =>
    obtain ⟨-, -, -, -, -, hword⟩ := isBlank_disjoint hc
    exact hword
  | cons d s => rfl

/-! ## Texts -/

/-- The text at `p`, behind the character `before`, has the given tokens and ends at `q`. -/
inductive Lexes : Option Char → Position → List Char → List Token → Position → Prop
  | nil {before : Option Char} {p : Position} : Lexes before p [] [] p
  | token {before : Option Char} {p q : Position} {s w rest : List Char} {ts : List Token} :
      matchPiece before s = some (⟨.token, w⟩, rest) →
      Lexes w.getLast? (p.advance w) rest ts q →
      Lexes before p s (⟨String.ofList w, p⟩ :: ts) q
  | gap {before : Option Char} {p q : Position} {s w rest : List Char} {ts : List Token} :
      matchPiece before s = some (⟨.gap, w⟩, rest) →
      Lexes w.getLast? (p.advance w) rest ts q → Lexes before p s ts q

variable {p q q' : Position} {ts ts' : List Token}

/-- Of the character in front, only matters whether it touches. -/
theorem Lexes.congr (h : Lexes before p s ts q) (hbefore : touches before = touches before') :
    Lexes before' p s ts q := by
  cases h with
  | nil => exact .nil
  | token hmatch hrest => exact .token (matchPiece_congr hbefore _ ▸ hmatch) hrest
  | gap hmatch hrest => exact .gap (matchPiece_congr hbefore _ ▸ hmatch) hrest

theorem lexes_congr (hbefore : touches before = touches before') :
    Lexes before p s ts q ↔ Lexes before' p s ts q :=
  ⟨(·.congr hbefore), (·.congr hbefore.symm)⟩

/-- Blanks touch nothing. -/
theorem touches_blanks {w : List Char} (hw : ∀ c ∈ w, isBlank c = true) :
    touches w.getLast? = touches none := by
  cases hlast : w.getLast? with
  | none => rfl
  | some c =>
    obtain ⟨-, -, -, -, -, hword⟩ := isBlank_disjoint (hw c (List.mem_of_getLast? hlast))
    exact hword

/-- Blanks at the start are one gap. -/
theorem lexes_blank_iff_dropWhile (hc : isBlank c = true) :
    Lexes before p (c :: s) ts q ↔
      Lexes none (p.advance (c :: s.takeWhile isBlank)) (s.dropWhile isBlank) ts q := by
  rw [← lexes_congr (touches_blanks (blanks_takeWhile hc s))]
  constructor
  · intro h
    cases h with
    | token hmatch _ =>
      rw [matchPiece_blank hc] at hmatch
      cases hmatch
    | gap hmatch hrest =>
      rw [matchPiece_blank hc] at hmatch
      cases hmatch
      exact hrest
  · exact .gap (matchPiece_blank hc)

/-- A blank may be dropped. -/
theorem lexes_blank_iff (hc : isBlank c = true) :
    Lexes before p (c :: s) ts q ↔ Lexes none (p.step c) s ts q := by
  rw [lexes_blank_iff_dropWhile hc]
  cases s with
  | nil => rfl
  | cons d s =>
    cases hd : isBlank d with
    | true =>
      rw [lexes_blank_iff_dropWhile hd, List.takeWhile_cons_of_pos hd,
        List.dropWhile_cons_of_pos hd]
      rfl
    | false =>
      rw [List.takeWhile_cons_of_neg (by simp [hd]), List.dropWhile_cons_of_neg (by simp [hd])]
      rfl

/-- Blanks in front only move the text. -/
theorem lexes_blanks_iff {w : List Char} (hw : ∀ c ∈ w, isBlank c = true) (hne : w ≠ []) :
    Lexes before p (w ++ s) ts q ↔ Lexes none (p.advance w) s ts q := by
  induction w generalizing before p with
  | nil => exact absurd rfl hne
  | cons c w ih =>
    obtain ⟨hc, hw⟩ := List.forall_mem_cons.1 hw
    rw [List.cons_append, lexes_blank_iff hc]
    cases w with
    | nil => rfl
    | cons d w => exact ih hw (by simp)

/-- A text behind a blank is cut as if nothing were in front of it, unless there may be a comment
    that does not end there. -/
theorem Lexes.append_blank (h : Lexes before p s ts q) (hc : isBlank c = true)
    (hline : c = '\n' ∨ '/' ∉ s) (h' : Lexes none (q.step c) t ts' q') :
    Lexes before p (s ++ c :: t) (ts ++ ts') q' := by
  induction h with
  | nil =>
    -- Where the first text is over, the blank stands in front of the second.
    exact (lexes_blank_iff hc).2 h'
  | @token before p q s w rest ts hmatch _ ih =>
    obtain ⟨rfl, htoken⟩ := matchPiece_token_iff.1 hmatch
    have hrest := ih (hline.imp_right fun hs hmem => hs (List.mem_append_right w hmem)) h'
    rw [List.append_assoc]
    exact .token (matchPiece_of_tokenAt (htoken.mono (touches_append_blank hc _ _).trans)) hrest
  | @gap before p q s w rest ts hmatch _ ih =>
    obtain ⟨rfl, hgap⟩ := matchPiece_gap_iff.1 hmatch
    have hrest := ih (hline.imp_right fun hs hmem => hs (List.mem_append_right w hmem)) h'
    rw [List.append_assoc]
    cases hgap with
    | blanks hne hw _ =>
      -- The blanks may go on behind the first text.
      exact (lexes_blanks_iff hw hne).2 (hrest.congr (touches_blanks hw))
    | comment hcomment hhead =>
      obtain rfl := hline.resolve_right (by simp)
      refine .gap (matchPiece_of_gapAt (.comment hcomment ?_)) hrest
      cases rest with
      | nil => simp
      | cons => exact hhead

/-- What stands in front does not matter if no word or integer begins the text. -/
theorem Lexes.behind (h : Lexes before p s ts q) (hs : touches s.head? = false) :
    Lexes before' p s ts q := by
  have hmatch : matchPiece before s = matchPiece before' s := by
    cases s with
    | nil => rfl
    | cons c s =>
      have hdigit := not_of_not_touches (fun _ => isWordChar_of_isDecimalDigit) hs c rfl
      have hstart := not_of_not_touches (fun _ => isWordChar_of_isWordStart) hs c rfl
      simp only [matchPiece, hdigit, hstart, Bool.false_eq_true, if_false]
  cases h with
  | nil => exact .nil
  | token htoken hrest => exact .token (hmatch ▸ htoken) hrest
  | gap hgap hrest => exact .gap (hmatch ▸ hgap) hrest

/-! ## Places -/

/-- Two texts are passed one after the other. -/
theorem Position.advance_append (p : Position) (s t : List Char) :
    p.advance (s ++ t) = (p.advance s).advance t :=
  List.foldl_append

/-- The end of the tokens is the place behind the text. -/
theorem Lexes.place_eq (h : Lexes before p s ts q) : q = p.advance s := by
  induction h with
  | nil => rfl
  | token hmatch _ ih => rw [ih, (matchPiece_append hmatch).2, Position.advance_append]
  | gap hmatch _ ih => rw [ih, (matchPiece_append hmatch).2, Position.advance_append]

/-- No token is empty. -/
theorem Lexes.text_ne (h : Lexes before p s ts q) : ∀ t ∈ ts, t.text ≠ "" := by
  induction h with
  | nil => nofun
  | token hmatch _ ih =>
    refine List.forall_mem_cons.2 ⟨fun heq => (matchPiece_append hmatch).1 ?_, ih⟩
    simpa using heq
  | gap _ _ ih => exact ih

/-- A text takes as many lines as it has line breaks. -/
theorem line_advance (p : Position) (s : List Char) :
    (p.advance s).line = p.line + s.count '\n' := by
  induction s generalizing p with
  | nil => rfl
  | cons c s ih =>
    rw [Position.advance, List.foldl_cons, ← Position.advance, ih, Position.step, List.count_cons]
    split
    · rw [Nat.add_right_comm, Nat.add_assoc]
    · rfl

/-- The place in the same column some lines below. -/
def Position.down (n : Nat) (p : Position) : Position := { p with line := p.line + n }

/-- Passing a text further down ends as much further down. -/
theorem Position.advance_down (n : Nat) (p : Position) (s : List Char) :
    (p.down n).advance s = (p.advance s).down n := by
  induction s generalizing p with
  | nil => rfl
  | cons c s ih =>
    have hstep : (p.down n).step c = (p.step c).down n := by
      simp only [Position.step, Position.down]
      split <;> simp [Nat.add_right_comm]
    simp only [Position.advance, List.foldl_cons] at ih ⊢
    rw [hstep, ih]

/-- Some lines below a text has the same tokens, these lines below. -/
theorem Lexes.down (n : Nat) (h : Lexes before p s ts q) :
    Lexes before (p.down n) s (ts.map (·.relocate (Position.down n))) (q.down n) := by
  induction h with
  | nil => exact .nil
  | token hmatch _ ih => exact .token hmatch (Position.advance_down n _ _ ▸ ih)
  | gap hmatch _ ih => exact .gap hmatch (Position.advance_down n _ _ ▸ ih)

/-! ## Cutting -/

/-- Where a piece matches, it is cut off. -/
theorem cutFrom_of_some {acc : List Piece} (h : matchPiece before s = some (piece, rest)) :
    cutFrom acc before s = cutFrom (piece :: acc) piece.text.getLast? rest := by
  rw [cutFrom]
  split <;> simp_all

/-- Where no piece matches, cutting ends. -/
theorem cutFrom_of_none {acc : List Piece} (h : matchPiece before s = none) :
    cutFrom acc before s = (acc.reverse, s) := by
  rw [cutFrom]
  split <;> simp_all

/-- A text with tokens is cut to its end, and its pieces have the tokens. -/
theorem cutFrom_of_lexes (h : Lexes before p s ts q) :
    ∃ pieces, (∀ acc, cutFrom acc before s = (acc.reverse ++ pieces, [])) ∧
      ∀ acc, locateFrom acc p pieces = (acc.reverse ++ ts, q) := by
  induction h with
  | nil =>
    refine ⟨[], fun acc => ?_, fun acc => ?_⟩
    · rw [cutFrom_of_none rfl, List.append_nil]
    · rw [locateFrom, List.append_nil]
  | @token before p q s w rest ts hmatch _ ih =>
    obtain ⟨pieces, hcut, hlocate⟩ := ih
    refine ⟨⟨.token, w⟩ :: pieces, fun acc => ?_, fun acc => ?_⟩
    · simp [cutFrom_of_some hmatch, hcut]
    · simp [locateFrom, hlocate]
  | @gap before p q s w rest ts hmatch _ ih =>
    obtain ⟨pieces, hcut, hlocate⟩ := ih
    refine ⟨⟨.gap, w⟩ :: pieces, fun acc => ?_, fun acc => ?_⟩
    · simp [cutFrom_of_some hmatch, hcut]
    · simp [locateFrom, hlocate]

/-- What is cut to its end has tokens. -/
theorem exists_lexes_of_cutFrom {acc : List Piece} (h : (cutFrom acc before s).2 = [])
    (p : Position) : ∃ ts q, Lexes before p s ts q := by
  induction acc, before, s using cutFrom.induct generalizing p with
  | case1 acc before s hmatch =>
    rw [cutFrom_of_none hmatch] at h
    obtain rfl : s = [] := h
    exact ⟨[], p, .nil⟩
  | case2 acc before s piece rest hmatch ih =>
    rw [cutFrom_of_some hmatch] at h
    obtain ⟨ts, q, hts⟩ := ih h (p.advance piece.text)
    obtain ⟨kind, w⟩ := piece
    cases kind with
    | token => exact ⟨_, q, .token hmatch hts⟩
    | gap => exact ⟨ts, q, .gap hmatch hts⟩

/-- The tokens of a text are those that it is cut into, and the end. -/
theorem tokenize_eq_ok_iff {text : String} {tokens : List Token} :
    tokenize text = .ok tokens ↔
      ∃ ts q, Lexes none .start text.toList ts q ∧ tokens = ts ++ [⟨"", q⟩] := by
  have hok {ts : List Token} {q : Position} (h : Lexes none .start text.toList ts q) :
      tokenize text = .ok (ts ++ [⟨"", q⟩]) := by
    obtain ⟨pieces, hcut, hlocate⟩ := cutFrom_of_lexes h
    simp [tokenize, cut, hcut, hlocate]
  constructor
  · intro h
    have hrest : (cutFrom [] none text.toList).2 = [] := by
      by_contra hne
      simp only [tokenize, cut, List.isEmpty_iff, if_neg hne] at h
      cases h
    obtain ⟨ts, q, hts⟩ := exists_lexes_of_cutFrom hrest .start
    rw [hok hts] at h
    exact ⟨ts, q, hts, (Except.ok.inj h).symm⟩
  · rintro ⟨ts, q, hts, rfl⟩
    exact hok hts

/-- The tokens of a text are those that the tokenizer gives, with the end behind them. -/
theorem lexes_iff_tokenize {text : String} :
    Lexes none .start text.toList ts q ↔ tokenize text = .ok (ts ++ [⟨"", q⟩]) := by
  rw [tokenize_eq_ok_iff]
  constructor
  · exact fun h => ⟨ts, q, h, rfl⟩
  · rintro ⟨ts', q', h, heq⟩
    obtain ⟨rfl, hend⟩ := List.append_inj' heq rfl
    obtain rfl : q = q' := congrArg Token.position (List.cons.inj hend).1
    exact h

end WireSchema.Source
