import WireSchema.Proofs.Source.Recognition

/-!
# Tokens in other places

The parser looks at the texts of tokens only. If all tokens are moved to other places, the run stays
the same and so do the definitions, except that the places in them are moved, too
(`parseTokens_relocate`).

The law (`Moves`) compares the runs of two parsers, since the value of the part that has run may
hold places on which the rest depends.
-/

namespace WireSchema.Source

/-! ## Other places -/

section

variable (f : Position → Position)

/-- A token in another place. -/
def Token.relocate (t : Token) : Token := { t with position := f t.position }

/-- A stream with all tokens in other places. -/
def Stream.relocate (s : Stream) : Stream := ⟨s.current.relocate f, s.rest.map (·.relocate f)⟩

/-- An error in another place. -/
def SyntaxError.relocate (e : SyntaxError) : SyntaxError := { e with position := f e.position }

/-- A member of an enum in another place. -/
def MemberDecl.relocate (m : MemberDecl) : MemberDecl := { m with position := f m.position }

/-- A field of a message in another place. -/
def FieldDecl.relocate (d : FieldDecl) : FieldDecl := { d with position := f d.position }

/-- What is defined, with its parts in other places. -/
def Body.relocate : Body → Body
  | .enum width members => .enum width (members.map (·.relocate f))
  | .message id marker fields => .message id marker (fields.map (·.relocate f))

/-- A definition in another place, with all its parts. -/
def Definition.relocate (d : Definition) : Definition :=
  { d with position := f d.position, body := d.body.relocate f }

/-- All definitions of a text in other places. -/
def SourceFile.relocate (file : SourceFile) : SourceFile :=
  { file with definitions := file.definitions.map (·.relocate f) }

end

/-- Moving the places and taking a token may be done in either order. -/
@[simp]
theorem Stream.next_relocate (f : Position → Position) (s : Stream) :
    (s.relocate f).next = s.next.relocate f := by
  obtain ⟨current, rest⟩ := s
  cases rest <;> rfl

/-! ## The law -/

variable {α β : Type} {f : Position → Position} {g : α → α} {h : β → β} {p p' q q' : Parser α}

/-- The outcome of a run with the places in it moved. -/
def relocateRun (f : Position → Position) (g : α → α) :
    Except SyntaxError (α × Stream) → Except SyntaxError (α × Stream)
  | .ok x => .ok (g x.1, x.2.relocate f)
  | .error e => .error (e.relocate f)

/-- When the tokens are moved by `f`, the run of `p'` is that of `p` with all places moved; `g`
    moves those in the value. -/
def Moves (f : Position → Position) (g : α → α) (p' p : Parser α) : Prop :=
  ∀ s : Stream, p' (s.relocate f) = relocateRun f g (p s)

theorem moves_pure (a : α) : Moves f g (pure (g a)) (pure a) :=
  fun _ => rfl

theorem moves_failHere (cause : String → SyntaxCause) :
    Moves f g (failHere cause) (failHere cause) :=
  fun _ => rfl

theorem moves_throw (position : Position) (cause : SyntaxCause) :
    Moves f g (throw ⟨f position, cause⟩) (throw ⟨position, cause⟩) :=
  fun _ => rfl

/-- A parser and then another move as both do. -/
theorem Moves.bind {k k' : α → Parser β} (hp : Moves f g p' p)
    (hk : ∀ a, Moves f h (k' (g a)) (k a)) : Moves f h (p' >>= k') (p >>= k) := by
  intro s
  cases hrun : p s with
  | ok x =>
    have hrun' : p' (s.relocate f) = .ok (g x.1, x.2.relocate f) := by rw [hp s, hrun, relocateRun]
    rw [Parser.bind_of_ok hrun', Parser.bind_of_ok hrun, hk]
  | error e =>
    have hrun' : p' (s.relocate f) = .error (e.relocate f) := by rw [hp s, hrun, relocateRun]
    rw [Parser.bind_of_error hrun', Parser.bind_of_error hrun, relocateRun]

/-- A branch moves as its condition and its branches do. -/
theorem Moves.cond {c c' : Parser Bool} (hc : Moves f id c' c) (hyes : Moves f g p' p)
    (hno : Moves f g q' q) : Moves f g (do if ← c' then p' else q') (do if ← c then p else q) := by
  refine hc.bind fun b => ?_
  cases b with
  | true => exact hyes
  | false => exact hno

/-- Whether a token is eaten depends on its text and not on its place. -/
theorem eat_moves (test : String → Bool) : Moves f id (eat test) (eat test) := by
  intro s
  cases ht : test s.current.text with
  | true =>
    have ht' : test (s.relocate f).current.text = true := ht
    rw [eat_yes ht, eat_yes ht', Stream.next_relocate]
    rfl
  | false =>
    have ht' : test (s.relocate f).current.text = false := ht
    rw [eat_no ht, eat_no ht']
    rfl

theorem moves_eat {test : String → Bool} (hyes : Moves f g p' p) (hno : Moves f g q' q) :
    Moves f g (do if ← eat test then p' else q') (do if ← eat test then p else q) :=
  (eat_moves test).cond hyes hno

/-- An expected token is given with its place, and so is the error. -/
theorem expect_moves (test : String → Bool) (wanted : Wanted) :
    Moves f (Token.relocate f) (expect test wanted) (expect test wanted) := by
  intro s
  cases ht : test s.current.text with
  | true =>
    have ht' : test (s.relocate f).current.text = true := ht
    rw [expect_yes ht, expect_yes ht', Stream.next_relocate]
    rfl
  | false =>
    have ht' : test (s.relocate f).current.text = false := ht
    rw [expect_no ht, expect_no ht']
    rfl

/-! ## Each parser -/

theorem expectName_moves : Moves f (Token.relocate f) expectName expectName :=
  expect_moves _ _

theorem expectMark_moves (c : Char) : Moves f id (expectMark c) (expectMark c) :=
  (expect_moves _ _).bind fun _ => moves_pure ()

/-- The number of an integer has no place. -/
theorem expectInteger_moves : Moves f id expectInteger expectInteger := by
  refine (expect_moves _ _).bind fun t => ?_
  dsimp only [Token.relocate]
  cases integerValue? t.text with
  | none => exact moves_throw _ _
  | some n => exact moves_pure n

/-- Suffixes have no places. -/
theorem parseSuffixes_moves (fuel : Nat) (type : TypeExpr) :
    Moves f id (parseSuffixes fuel type) (parseSuffixes fuel type) := by
  induction fuel generalizing type with
  | zero => exact moves_failHere _
  | succ fuel ih =>
    rw [parseSuffixes]
    refine moves_eat (moves_eat (ih _) ?_) (moves_pure _)
    exact expectInteger_moves.bind fun _ => (expectMark_moves ']').bind fun _ => ih _

/-- Types have no places. -/
theorem parseType_parseArgs_moves (fuel : Nat) :
    Moves f id (parseType fuel) (parseType fuel) ∧
      Moves f id (parseArgs fuel) (parseArgs fuel) := by
  induction fuel with
  | zero =>
    rw [parseType, parseArgs]
    exact ⟨moves_failHere _, moves_failHere _⟩
  | succ fuel ih =>
    obtain ⟨htype, hargs⟩ := ih
    rw [parseType, parseArgs]
    refine ⟨(expect_moves _ _).bind fun _ => moves_eat ?_ (parseSuffixes_moves _ _),
      htype.bind fun _ => moves_eat ?_ ?_⟩
    · exact hargs.bind fun _ => parseSuffixes_moves _ _
    · exact hargs.bind fun _ => moves_pure _
    · exact (expectMark_moves '>').bind fun _ => moves_pure _

/-- The members of an enum move with their names. -/
theorem parseMembers_moves (fuel : Nat) :
    Moves f (List.map (MemberDecl.relocate f)) (parseMembers fuel) (parseMembers fuel) := by
  induction fuel with
  | zero => exact moves_failHere _
  | succ fuel ih =>
    rw [parseMembers]
    refine moves_eat (moves_pure []) ?_
    exact expectName_moves.bind fun t => (expectMark_moves '=').bind fun _ =>
      expectInteger_moves.bind fun n => (expectMark_moves ';').bind fun _ =>
      ih.bind fun members => moves_pure (⟨t.text, t.position, n⟩ :: members)

theorem parseWidth_moves : Moves f id parseWidth parseWidth := by
  refine moves_eat ((expect_moves _ _).bind fun t => ?_) (moves_pure _)
  dsimp only [Token.relocate]
  cases Width.ofName? t.text with
  | none => exact moves_throw _ _
  | some w => exact moves_pure _

/-- An enum moves with its name and its members. -/
theorem parseEnum_moves (fuel : Nat) (scope : Option String) :
    Moves f (Definition.relocate f) (parseEnum fuel scope) (parseEnum fuel scope) :=
  expectName_moves.bind fun t => parseWidth_moves.bind fun width =>
    (expectMark_moves '\x7b').bind fun _ => (parseMembers_moves fuel).bind fun members =>
    moves_pure (g := Definition.relocate f) ⟨t.text, scope, t.position, .enum width members⟩

/-- The fields of a message move with their names. -/
theorem parseFields_moves (fuel : Nat) :
    Moves f (List.map (FieldDecl.relocate f)) (parseFields fuel) (parseFields fuel) := by
  induction fuel with
  | zero => exact moves_failHere _
  | succ fuel ih =>
    rw [parseFields]
    refine moves_eat (moves_pure []) ?_
    exact (parseType_parseArgs_moves fuel).1.bind fun type => expectName_moves.bind fun t =>
      (expectMark_moves ';').bind fun _ =>
      ih.bind fun fields => moves_pure (⟨t.text, t.position, type⟩ :: fields)

theorem parseTag_moves : Moves f id parseTag parseTag :=
  moves_eat (expectInteger_moves.bind fun _ => moves_pure _) (moves_pure _)

theorem parseMarker_moves : Moves f id parseMarker parseMarker :=
  moves_eat (moves_eat ((expectMark_moves ']').bind fun _ => moves_pure _) (moves_failHere _))
    (moves_pure _)

/-- A message moves with its name and its fields. -/
theorem parseMessage_moves (fuel : Nat) (scope : Option String) :
    Moves f (Definition.relocate f) (parseMessage fuel scope) (parseMessage fuel scope) :=
  expectName_moves.bind fun t => parseTag_moves.bind fun id => parseMarker_moves.bind fun marker =>
    (expectMark_moves '\x7b').bind fun _ => (parseFields_moves fuel).bind fun fields =>
    moves_pure (g := Definition.relocate f) ⟨t.text, scope, t.position, .message id marker fields⟩

/-- Paths have no places. -/
theorem parsePath_moves (fuel : Nat) : Moves f id (parsePath fuel) (parsePath fuel) := by
  induction fuel with
  | zero => exact moves_failHere _
  | succ fuel ih =>
    rw [parsePath]
    exact expectName_moves.bind fun _ => moves_eat (ih.bind fun _ => moves_pure _) (moves_pure _)

theorem peek_moves : Moves f (Token.relocate f) peek peek :=
  fun _ => rfl

/-- The end of a block is found by its text. -/
theorem parseEnd_moves (scope : Option String) : Moves f id (parseEnd scope) (parseEnd scope) := by
  cases scope with
  | none => exact eat_moves (· == "")
  | some _ =>
    refine moves_eat (moves_pure _) (peek_moves.bind fun t => ?_)
    dsimp only [Token.relocate]
    split
    · exact (expectMark_moves '\x7d').bind fun _ => moves_pure _
    · exact moves_pure _

/-- All definitions move with the tokens, and so does the error. -/
theorem parseItems_moves (fuel : Nat) (scope : Option String) :
    Moves f (List.map (Definition.relocate f)) (parseItems fuel scope) (parseItems fuel scope) := by
  induction fuel generalizing scope with
  | zero => exact moves_failHere _
  | succ fuel ih =>
    rw [parseItems]
    refine (parseEnd_moves scope).cond (moves_pure []) <| moves_eat ?_ <| moves_eat ?_ <|
      moves_eat ?_ (moves_failHere _)
    · refine (parsePath_moves fuel).bind fun path => (expectMark_moves '\x7b').bind fun _ =>
        (ih _).bind fun inner => (ih scope).bind fun rest => ?_
      rw [← List.map_append]
      exact moves_pure _
    · exact (parseEnum_moves fuel scope).bind fun d => (ih scope).bind fun rest =>
        moves_pure (d :: rest)
    · exact (parseMessage_moves fuel scope).bind fun d => (ih scope).bind fun rest =>
        moves_pure (d :: rest)

/-- The places of the tokens are those of the definitions, or of the error. -/
theorem parseTokens_relocate (f : Position → Position) (tokens : List Token) (label : String) :
    parseTokens (tokens.map (·.relocate f)) label =
      ((parseTokens tokens label).mapError (·.relocate f)).map (·.relocate f) := by
  cases tokens with
  | nil => rfl
  | cons t rest =>
    have hrun := parseTokens_tokens (Stream.relocate f ⟨t, rest⟩) label
    rw [parseItems_moves] at hrun
    refine hrun.trans ?_
    change _ = ((parseTokens (Stream.tokens ⟨t, rest⟩) label).mapError _).map _
    have hlen : (Stream.relocate f ⟨t, rest⟩).tokens.length = (Stream.tokens ⟨t, rest⟩).length := by
      simp [Stream.tokens, Stream.relocate]
    rw [parseTokens_tokens, hlen]
    cases parseItems (nestingBound (Stream.tokens ⟨t, rest⟩).length) none ⟨t, rest⟩ <;> rfl

/-- Tokens with the same texts are the same when all are moved to one place. -/
theorem Stream.relocate_const {s r : Stream}
    (h : s.tokens.map Token.text = r.tokens.map Token.text) (p : Position) :
    s.relocate (fun _ => p) = r.relocate fun _ => p := by
  have hmap (tokens : List Token) : tokens.map (·.relocate fun _ => p) =
      (tokens.map Token.text).map (⟨·, p⟩) := by
    rw [List.map_map]
    rfl
  obtain ⟨hcurrent, hrest⟩ := List.cons.inj h
  rw [Stream.relocate, Stream.relocate, hmap, hmap, hrest, Token.relocate, Token.relocate, hcurrent]

end WireSchema.Source
