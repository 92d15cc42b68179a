import WireSchema.Proofs.Source.Acceptance
import WireSchema.Proofs.Source.Relocation

/-!
# The language of the parser

The parser accepts exactly the tokens that have a derivation, and says what the derivation says.
Where it refuses tokens, it does so at the first one with which no accepted text goes on.
-/

namespace WireSchema.Source

open Phrase (tokens)

variable {ts : List Token} {label : String}

/-- What is accepted starts with a derivation: its last token is an empty one outside of all
    namespaces, and nothing behind it is looked at. -/
theorem exists_prefix_of_parseTokens {file : SourceFile} (hne : ts ≠ [])
    (h : parseTokens ts label = .ok file) :
    ∃ x : Derivation, x.tokens <+: ts ∧ file = ⟨label, x.definitions⟩ := by
  obtain ⟨s, rfl⟩ := Stream.exists_tokens_eq hne
  obtain ⟨⟨definitions, s'⟩, hrun, rfl⟩ := parseTokens_eq_ok_iff.1 h
  obtain ⟨_, hu, ⟨items, stop, rfl, rfl⟩, -⟩ := (parseItems_reads _ []).ok hrun
  obtain ⟨m, hitems, hstop⟩ := Stream.leads_append_iff.1 hu
  obtain ⟨hcurrent, -⟩ := Stream.leads_cons_iff.1 hstop
  have hend : m.current.text = "" := hcurrent ▸ stop.isOf
  have heq := hitems.tokens_eq (hend ▸ Phrase.text_ne items)
  refine ⟨⟨items, ⟨m.current, hend⟩⟩, ⟨m.rest, ?_⟩, rfl⟩
  rw [heq, Derivation.tokens, List.append_assoc]
  rfl

/-- Up to an end, the definitions that the parser gives are those of a derivation. -/
theorem exists_derivation_of_parseTokens {file : SourceFile} (hts : Ended ts)
    (h : parseTokens ts label = .ok file) :
    ∃ x : Derivation, x.tokens = ts ∧ file = ⟨label, x.definitions⟩ := by
  obtain ⟨x, ⟨more, rfl⟩, hfile⟩ := exists_prefix_of_parseTokens hts.ne_nil h
  rw [Derivation.tokens, List.append_assoc] at hts
  obtain rfl := hts.eq_nil_of_append x.stop.isOf
  exact ⟨x, (List.append_nil _).symm, hfile⟩

/-- Tokens up to an end are accepted if and only if they have a derivation. It is the only one, and
    what it defines is what the parser gives: the definitions in the order of the text, each with
    the dotted path of the blocks around it and the place of its name. -/
theorem parseTokens_iff_derivation (hts : Ended ts) (label : String) :
    ((∃ file, parseTokens ts label = .ok file) ↔ ∃ x : Derivation, x.tokens = ts) ∧
      ∀ x : Derivation, x.tokens = ts →
        parseTokens ts label = .ok ⟨label, x.definitions⟩ ∧
          ∀ y : Derivation, y.tokens = ts → y = x := by
  refine ⟨⟨fun ⟨file, hfile⟩ => ?_, fun ⟨x, hx⟩ => ?_⟩, fun x hx => ⟨?_, fun y hy => ?_⟩⟩
  · obtain ⟨x, hx, -⟩ := exists_derivation_of_parseTokens hts hfile
    exact ⟨x, hx⟩
  · exact ⟨_, hx ▸ parseTokens_derivation x label⟩
  · exact hx ▸ parseTokens_derivation x label
  · exact Derivation.tokens_injective (hy.trans hx.symm)

/-- Tokens with the given texts, one behind the other in a line. -/
def inLine (texts : List String) : List Token :=
  texts.zipIdx.map fun x => ⟨x.1, ⟨1, x.2⟩⟩

/-- Blocks inside of blocks, and arguments and suffixes inside of arguments. -/
def nestedTokens : List Token :=
  inLine ["namespace", "a", ".", "b", "\x7b", "namespace", "c", "\x7b", "message", "message", "=",
    "-7", "[", "marker", "]", "\x7b", "list", "<", "x", "[", "3", "]", "[", "]", ",", "y", "<", "z",
    ">", ">", "marker", ";", "\x7d", "\x7d", "enum", "enum", ":", "u16", "\x7b", "A", "=", "1", ";",
    "\x7d", "\x7d", ""]

/-- The nested tokens have one derivation, and its definitions are those that are parsed. -/
theorem parseTokens_iff_derivation_nestedTokens :
    Ended nestedTokens ∧ ∃ x : Derivation, x.tokens = nestedTokens ∧
      parseTokens nestedTokens "" = .ok ⟨"", x.definitions⟩ ∧
      ∀ y : Derivation, y.tokens = nestedTokens → y = x := by
  have hended : Ended nestedTokens := by decide +kernel
  obtain ⟨hiff, hunique⟩ := parseTokens_iff_derivation hended ""
  obtain ⟨x, hx⟩ := hiff.1 ⟨_, rfl⟩
  exact ⟨hended, x, hx, hunique x hx⟩

/-! ## Errors -/

/-- The tokens are those of a text that the parser accepts. -/
def Accepted (ts : List Token) : Prop :=
  ∃ label file, parseTokens ts label = .ok file

/-- An accepted text is accepted with any greater bound on the nesting. -/
theorem Accepted.parseItems {s : Stream} (h : Accepted s.tokens) (d : Nat) :
    ∃ x, parseItems (nestingBound s.tokens.length + d) none s = .ok x := by
  obtain ⟨label, file, h⟩ := h
  obtain ⟨x, hrun, -⟩ := parseTokens_eq_ok_iff.1 h
  obtain ⟨_, hu, -, hdeeper⟩ := (parseItems_reads _ []).ok hrun
  exact ⟨_, hdeeper hu rfl⟩

/-- Whether tokens are accepted depends on their texts. -/
theorem parseItems_isOk_of_texts_eq {s r : Stream} {fuel : Nat} {x : List Definition × Stream}
    (htexts : s.tokens.map Token.text = r.tokens.map Token.text)
    (h : parseItems fuel none s = .ok x) : ∃ y, parseItems fuel none r = .ok y := by
  have hs := parseItems_moves (f := fun _ => .start) fuel none s
  rw [Stream.relocate_const htexts, parseItems_moves, h] at hs
  cases hr : parseItems fuel none r with
  | error e => simp [hr, relocateRun] at hs
  | ok y => exact ⟨y, rfl⟩

/-- No accepted text starts with tokens behind which the parser always stops. -/
theorem Accepted.not_texts_prefix {l u : List Token} {t : Token} {n : Nat} {e : SyntaxError}
    (hl : Accepted l) (hstops : ∀ {d : Nat} {r r' : Stream}, r.Leads u r' → r'.current = t →
      Source.parseItems (n + d) none r = .error e) :
    ¬ (u ++ [t]).map Token.text <+: l.map Token.text := by
  rintro ⟨texts, htexts⟩
  have hne : l ≠ [] := by
    rintro rfl
    simp at htexts
  obtain ⟨s, rfl⟩ := Stream.exists_tokens_eq hne
  obtain ⟨x, hx⟩ := hl.parseItems n
  -- The accepted text, with the given tokens in front.
  obtain ⟨r, hr⟩ := Stream.exists_tokens_eq
    (by simp : u ++ t :: texts.map (⟨·, .start⟩ : String → Token) ≠ [])
  have hsame : s.tokens.map Token.text = r.tokens.map Token.text := by
    simp [← htexts, hr, Function.comp_def]
  obtain ⟨y, hy⟩ := parseItems_isOk_of_texts_eq hsame hx
  have hstop := hstops (d := nestingBound s.tokens.length)
    (Stream.leads_of_tokens_eq (r := ⟨t, _⟩) hr) rfl
  rw [Nat.add_comm, hy] at hstop
  cases hstop

/-- An error names the first token that is to blame: what stands in front of it can be completed to
    an accepted text, and no accepted text starts with it and what stands in front of it. -/
theorem parseTokens_error_at_first {e : SyntaxError} (hts : Ended ts)
    (h : parseTokens ts label = .error e) :
    ∃ (k : Nat) (hk : k < ts.length), ts[k].position = e.position ∧
      (∃ l, Ended l ∧ Accepted l ∧ (ts.take k).map Token.text <+: l.map Token.text) ∧
      ∀ l, Accepted l → ¬ (ts.take (k + 1)).map Token.text <+: l.map Token.text := by
  obtain ⟨s, rfl⟩ := Stream.exists_tokens_eq hts.ne_nil
  have hlen : s.rest.length < nestingBound s.tokens.length := by
    rw [nestingBound, Stream.tokens, List.length_cons]
    omega
  obtain ⟨u, s', hu, hne, hposition, ⟨definitions, v, items, stop, hv, -⟩, hstops⟩ :=
    (parseItems_reads _ []).error hts hlen (parseTokens_eq_error_iff.1 h)
  obtain ⟨-, heq⟩ := hts.leads hu hne
  have hlt : u.length < s.tokens.length := by
    rw [heq]
    simp [Stream.tokens]
  have htake : s.tokens.take u.length = u := by rw [heq, List.take_left]
  have htake' : s.tokens.take (u.length + 1) = u ++ [s'.current] := by
    rw [heq, List.take_length_add_append]
    rfl
  refine ⟨u.length, hlt, ?_, ?_, fun l hl => ?_⟩
  · simp only [heq]
    simpa [Stream.tokens] using hposition
  · -- The phrase that completes what was taken is a text.
    refine ⟨u ++ v, ?_, ?_, ?_⟩
    · rw [← hv]
      exact ended_append (Phrase.text_ne items) stop.isOf
    · rw [← hv]
      exact ⟨"", _, parseTokens_derivation ⟨items, ⟨stop.token, stop.isOf⟩⟩ ""⟩
    · rw [htake, List.map_append]
      exact List.prefix_append _ _
  · rw [htake']
    exact hl.not_texts_prefix hstops

/-- A field without its semicolon. -/
def unendedField : List Token :=
  inLine ["message", "M", "\x7b", "u8", "x", "\x7d", ""]

/-- The error stands at the brace, which is the first token that no field goes on with. -/
theorem parseTokens_error_at_first_unendedField :
    Ended unendedField ∧
      parseTokens unendedField "" = .error ⟨⟨1, 5⟩, .expected (.mark ';') "\x7d"⟩ ∧
      ∃ (k : Nat) (hk : k < unendedField.length), unendedField[k].position = ⟨1, 5⟩ ∧
        (∃ l, Ended l ∧ Accepted l ∧
          (unendedField.take k).map Token.text <+: l.map Token.text) ∧
        ∀ l, Accepted l → ¬ (unendedField.take (k + 1)).map Token.text <+: l.map Token.text := by
  have hended : Ended unendedField := by decide
  have herror : parseTokens unendedField "" = .error ⟨⟨1, 5⟩, .expected (.mark ';') "\x7d"⟩ := rfl
  exact ⟨hended, herror, parseTokens_error_at_first hended herror⟩

end WireSchema.Source
