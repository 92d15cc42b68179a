import WireSchema.Proofs.Source.Language
import WireSchema.Proofs.Source.Lexing

/-!
# Texts behind one another

Two texts with a line break between them say what the first says and then what the second says, that
many lines further down (`parse_append`).
-/

namespace WireSchema.Source

open Phrase (tokens)

/-! ## Items behind items -/

/-- Items behind items. -/
def Items.append : Items → Items → Items
  | nil, y => y
  | block keyword path left inner right rest, y =>
    block keyword path left inner right (rest.append y)
  | enum keyword decl rest, y => enum keyword decl (rest.append y)
  | message keyword decl rest, y => message keyword decl (rest.append y)

/-- Items behind items have the tokens of both. -/
theorem tokens_itemsAppend (x y : Items) : tokens (x.append y) = tokens x ++ tokens y := by
  induction x with
  | nil => rfl
  | block keyword path left inner right rest _ ih => simp [Items.append, ih]
  | enum keyword decl rest ih => simp [Items.append, ih]
  | message keyword decl rest ih => simp [Items.append, ih]

/-- Items behind items have the definitions of both. -/
theorem Items.definitions_append (path : List String) (x y : Items) :
    (x.append y).definitions path = x.definitions path ++ y.definitions path := by
  induction x generalizing path with
  | nil => rfl
  | block keyword names left inner right rest _ ih => simp [Items.append, Items.definitions, ih]
  | enum keyword decl rest ih => simp [Items.append, Items.definitions, ih]
  | message keyword decl rest ih => simp [Items.append, Items.definitions, ih]

/-! ## Texts behind texts -/

/-- A text can be parsed if it has tokens and they can be parsed. -/
theorem parse_eq_ok_iff {text label : String} {file : SourceFile} :
    parse text label = .ok file ↔
      ∃ tokens, tokenize text = .ok tokens ∧ parseTokens tokens label = .ok file := by
  change (tokenize text >>= fun tokens => parseTokens tokens label) = _ ↔ _
  cases tokenize text with
  | error e => simp [bind, Except.bind]
  | ok tokens => simp [bind, Except.bind]

/-- Tokens that can be parsed are those of items. -/
theorem Lexes.exists_items {before : Option Char} {p q : Position} {s : List Char} {ts : List Token}
    {label : String} {file : SourceFile} (hts : Lexes before p s ts q)
    (h : parseTokens (ts ++ [⟨"", q⟩]) label = .ok file) :
    ∃ items : Items, tokens items = ts ∧ file = ⟨label, items.definitions []⟩ := by
  obtain ⟨⟨items, stop⟩, hx, rfl⟩ :=
    exists_derivation_of_parseTokens (ended_append hts.text_ne rfl) h
  obtain ⟨hitems, -⟩ := List.append_inj' hx rfl
  exact ⟨items, hitems, rfl⟩

/-- A text with the tokens of items is parsed as their definitions. -/
theorem parse_of_lexes {text label : String} {items : Items} {q : Position}
    (h : Lexes none .start text.toList (tokens items) q) :
    parse text label = .ok ⟨label, items.definitions []⟩ :=
  parse_eq_ok_iff.2 ⟨_, tokenize_eq_ok_iff.2 ⟨_, q, h, rfl⟩,
    parseTokens_derivation ⟨items, ⟨⟨"", q⟩, rfl⟩⟩ label⟩

/-- Two texts with a line break between them say what each says. -/
theorem parse_append {a b labelA labelB : String} {fileA fileB : SourceFile}
    (ha : parse a labelA = .ok fileA) (hb : parse b labelB = .ok fileB) (label : String) :
    parse (a ++ "\n" ++ b) label = .ok ⟨label, fileA.definitions ++
      fileB.definitions.map (·.relocate (Position.down (1 + a.toList.count '\n')))⟩ := by
  generalize hlines : 1 + a.toList.count '\n' = lines
  obtain ⟨_, htokensA, hfileA⟩ := parse_eq_ok_iff.1 ha
  obtain ⟨_, htokensB, hfileB⟩ := parse_eq_ok_iff.1 hb
  obtain ⟨ts, q, hlexA, rfl⟩ := tokenize_eq_ok_iff.1 htokensA
  obtain ⟨ts', q', hlexB, rfl⟩ := tokenize_eq_ok_iff.1 htokensB
  -- The second text starts at the line behind the first.
  have hseam : q.step '\n' = Position.start.down lines := by
    have hline := line_advance .start a.toList
    rw [← hlexA.place_eq] at hline
    simp only [Position.step, beq_self_eq_true, if_true, hline, Position.down, Position.start,
      ← hlines, Nat.add_comm]
  have hdown := hlexB.down lines
  have hfileB' := parseTokens_relocate (Position.down lines) (ts' ++ [⟨"", q'⟩]) labelB
  rw [hfileB, List.map_append] at hfileB'
  obtain ⟨itemsA, rfl, rfl⟩ := hlexA.exists_items hfileA
  obtain ⟨itemsB, hitemsB, heqB⟩ := hdown.exists_items hfileB'
  rw [← hseam, ← hitemsB] at hdown
  have hlex := hlexA.append_blank (by decide) (.inl rfl) hdown
  rw [← tokens_itemsAppend] at hlex
  have hdefinitions : fileB.definitions.map (·.relocate (Position.down lines)) =
      itemsB.definitions [] := congrArg SourceFile.definitions heqB
  rw [hdefinitions, ← Items.definitions_append]
  exact parse_of_lexes (by simpa using hlex)

end WireSchema.Source
