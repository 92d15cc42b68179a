import WireSchema.Proofs.Source.Reads

/-!
# The parser reads the grammar

Each parser reads the trees of its rule (`Reads`), with the value that the tree says: what it
accepts is derived, and where it stops the tokens in front can be completed.
-/

namespace WireSchema.Source

open Phrase (tokens)

variable {n : Nat}

/-! ## Leaves -/

section

variable {sort : String → Prop} [LeafSort sort] {test : String → Bool} {wanted : Wanted}

theorem expect_reads (htest : ∀ text, test text = true → sort text) :
    Reads n (expect test wanted) (fun _ => expect test wanted)
      (Derived fun x : Leaf sort => x.token) := by
  refine reads_token (f := fun t => if test t.text then .ok t
    else .error ⟨t.position, .expected wanted t.text⟩)
    (fun s => ?_) (fun {t a} h => ?_) (fun {t e} h => ?_) (viable_derived _)
  · cases ht : test s.current.text with
    | true => rw [expect_yes ht, if_pos rfl, Except.map]
    | false => rw [expect_no ht, if_neg Bool.false_ne_true, Except.map]
  · split at h
    · next ht => exact ⟨⟨t, htest _ ht⟩, rfl, Except.ok.inj h⟩
    · cases h
  · split at h
    · cases h
    · rw [← Except.error.inj h]

/-- A token that stands for something is a leaf, and one that does not is stopped at. -/
theorem convert_reads {α β : Type} {value : String → Option α} {valueOf : String → α}
    (cause : String → SyntaxCause) {f : Token → Parser β} {g : α → β}
    (hf : ∀ t, f t = (value t.text).elim (throw ⟨t.position, cause t.text⟩) fun a => pure (g a))
    (hvalue : ∀ text a, value text = some a → sort text ∧ valueOf text = a) :
    Reads n (do f (← expect test wanted)) (fun _ => do f (← expect test wanted))
      (Derived fun x : Leaf sort => g (valueOf x.token.text)) := by
  refine reads_token (f := fun t => if test t.text
    then (value t.text).elim (.error ⟨t.position, cause t.text⟩) fun a => .ok (g a)
    else .error ⟨t.position, .expected wanted t.text⟩)
    (fun s => ?_) (fun {t b} h => ?_) (fun {t e} h => ?_) (viable_derived _)
  · -- The parser looks at one token only, and so does `f`.
    cases ht : test s.current.text with
    | true =>
      rw [Parser.bind_of_ok (expect_yes ht wanted), hf, if_pos rfl]
      cases value s.current.text <;> rfl
    | false =>
      rw [Parser.bind_of_error (expect_no ht wanted), if_neg Bool.false_ne_true, Except.map]
  · split at h
    · cases hv : value t.text with
      | none => simp [hv] at h
      | some a =>
        rw [hv] at h
        obtain ⟨hsort, rfl⟩ := hvalue _ _ hv
        exact ⟨⟨t, hsort⟩, rfl, Except.ok.inj h⟩
    · cases h
  · split at h
    · cases hv : value t.text with
      | none =>
        rw [hv] at h
        rw [← Except.error.inj h]
      | some a => simp [hv] at h
    · rw [← Except.error.inj h]

end

theorem expectWord_reads {wanted : Wanted} :
    Reads n (expect isIdentifier wanted) (fun _ => expect isIdentifier wanted)
      (Derived fun x : Name => x.token) :=
  expect_reads fun _ => isIdentifier_iff.1

theorem expectName_reads :
    Reads n expectName (fun _ => expectName) (Derived fun x : Name => x.token) :=
  expectWord_reads

theorem expectMark_reads (c : Char) :
    Reads n (expectMark c) (fun _ => expectMark c) (Derived fun _ : Mark c => ()) :=
  (expect_reads fun _ => isMark_iff.1).bind fun x => reads_pure ⟨x, by simp, rfl⟩

/-- Expecting an integer reads a leaf and gives its number. -/
theorem expectInteger_reads :
    Reads n expectInteger (fun _ => expectInteger)
      (Derived fun x : IntegerLeaf => integerOf x.token.text) :=
  convert_reads .invalidInteger (g := id) (fun t => by cases integerValue? t.text <;> rfl)
    fun _ _ => integerValue?_eq_some_iff.1

/-! ## Types -/

/-- Suffixes are read one by one and put around the type. -/
theorem parseSuffixes_reads (fuel : Nat) (type : TypeExpr) :
    Reads fuel (parseSuffixes fuel type) (fun d => parseSuffixes (fuel + d) type)
      (Derived fun xs : List Suffix => xs.foldl Suffix.attach type) := by
  induction fuel generalizing type with
  | zero => exact reads_tooDeep (viable_derived _)
  | succ fuel ih =>
    simp only [Nat.add_right_comm fuel 1, parseSuffixes]
    refine reads_eatMark (fun left => ?_) (reads_pure ⟨[], rfl, rfl⟩)
    refine reads_eatMark (fun right => ?_) ?_
    · refine ((ih _).mono (by omega)).imp ?_
      rintro _ _ ⟨xs, rfl, rfl⟩
      exact ⟨⟨left, none, right⟩ :: xs, by simp, rfl⟩
    · refine expectInteger_reads.bind fun len => (expectMark_reads ']').bind fun right => ?_
      refine ((ih _).mono (by omega)).imp ?_
      rintro _ _ ⟨xs, rfl, rfl⟩
      exact ⟨⟨left, some len, right⟩ :: xs, by simp, rfl⟩

/-- Types and arguments are read as their trees, by induction on the bound that both share. -/
theorem parseType_parseArgs_reads (fuel : Nat) :
    Reads fuel (parseType fuel) (fun d => parseType (fuel + d)) (Derived TypeTree.type) ∧
      Reads (fuel - 1) (parseArgs fuel) (fun d => parseArgs (fuel + d))
        (Derived ArgsTree.types) := by
  induction fuel with
  | zero => exact ⟨reads_tooDeep (viable_derived _), reads_tooDeep (viable_derived _)⟩
  | succ fuel ih =>
    obtain ⟨htype, hargs⟩ := ih
    refine ⟨?_, ?_⟩
    · -- The arguments stand behind two tokens, the name and the bracket, and one step of the bound.
      simp only [Nat.add_right_comm fuel 1, parseType]
      refine expectWord_reads.bind fun name => reads_eatMark (fun left => ?_) ?_
      · refine (hargs.mono (by simp)).bind fun args => ?_
        refine ((parseSuffixes_reads fuel _).mono (by simp; omega)).imp ?_
        rintro _ _ ⟨xs, rfl, rfl⟩
        exact ⟨.generic name left args xs, by simp, rfl⟩
      · refine ((parseSuffixes_reads fuel _).mono (by simp)).imp ?_
        rintro _ _ ⟨xs, rfl, rfl⟩
        exact ⟨.plain name xs, by simp, rfl⟩
    · simp only [Nat.add_right_comm fuel 1, parseArgs]
      refine htype.bind fun type => reads_eatMark (fun comma => ?_) ?_
      · refine (hargs.mono (by simp; omega)).bind fun rest => reads_pure ?_
        exact ⟨.more type comma rest, by simp, rfl⟩
      · refine (expectMark_reads '>').bind fun right => reads_pure ?_
        exact ⟨.last type right, by simp, rfl⟩

/-! ## Enums -/

/-- Members are read up to the closing brace. -/
theorem parseMembers_reads (fuel : Nat) :
    Reads fuel (parseMembers fuel) (fun d => parseMembers (fuel + d))
      (Derived fun x : List MemberTree × Mark '\x7d' => x.1.map MemberTree.decl) := by
  induction fuel with
  | zero => exact reads_tooDeep (viable_derived _)
  | succ fuel ih =>
    simp only [Nat.add_right_comm fuel 1, parseMembers]
    refine reads_eatMark (fun right => reads_pure ⟨([], right), rfl, rfl⟩) ?_
    refine expectName_reads.bind fun name => (expectMark_reads '=').bind fun equals =>
      expectInteger_reads.bind fun value => (expectMark_reads ';').bind fun semicolon => ?_
    refine (ih.mono (by simp; omega)).bind fun x => reads_pure ?_
    exact ⟨(⟨name, equals, value, semicolon⟩ :: x.1, x.2), by simp, rfl⟩

/-- A width is read if there is a colon. -/
theorem parseWidth_reads :
    Reads n parseWidth (fun _ => parseWidth)
      (Derived fun x : Option WidthTree => x.map fun w => widthOf w.width.token.text) := by
  refine reads_eatMark (fun colon => ?_) (reads_pure ⟨none, rfl, rfl⟩)
  refine Reads.imp (F := Derived fun x : WidthLeaf => some (widthOf x.token.text))
    (convert_reads .unknownWidth (fun t => ?_) fun _ _ => ofName?_eq_some_iff.1) ?_
  · cases Width.ofName? t.text <;> rfl
  · rintro _ _ ⟨width, rfl, rfl⟩
    exact ⟨some ⟨colon, width⟩, by simp, rfl⟩

/-- An enum is read as its definition. -/
theorem parseEnum_reads (fuel : Nat) (path : List String) :
    Reads fuel (parseEnum fuel (dotted path)) (fun d => parseEnum (fuel + d) (dotted path))
      (Derived (EnumTree.definition path)) := by
  refine expectName_reads.bind fun name => parseWidth_reads.bind fun width =>
    (expectMark_reads '\x7b').bind fun left => ?_
  refine ((parseMembers_reads fuel).mono (by omega)).bind fun x => reads_pure ?_
  exact ⟨⟨name, width, left, x.1, x.2⟩, by simp, rfl⟩

/-! ## Messages -/

/-- Fields are read up to the closing brace. -/
theorem parseFields_reads (fuel : Nat) :
    Reads (fuel - 1) (parseFields fuel) (fun d => parseFields (fuel + d))
      (Derived fun x : List FieldTree × Mark '\x7d' => x.1.map FieldTree.decl) := by
  induction fuel with
  | zero => exact reads_tooDeep (viable_derived _)
  | succ fuel ih =>
    simp only [Nat.add_right_comm fuel 1, parseFields]
    refine reads_eatMark (fun right => reads_pure ⟨([], right), rfl, rfl⟩) ?_
    refine (parseType_parseArgs_reads fuel).1.bind fun type =>
      expectName_reads.bind fun name => (expectMark_reads ';').bind fun semicolon => ?_
    refine (ih.mono (by simp; omega)).bind fun x => reads_pure ?_
    exact ⟨(⟨type, name, semicolon⟩ :: x.1, x.2), by simp, rfl⟩

/-- An identifier is read if there is an equals sign. -/
theorem parseTag_reads :
    Reads n parseTag (fun _ => parseTag)
      (Derived fun x : Option TagTree => x.map fun t => integerOf t.id.token.text) := by
  refine reads_eatMark (fun equals => ?_) (reads_pure ⟨none, rfl, rfl⟩)
  exact expectInteger_reads.bind fun id => reads_pure ⟨some ⟨equals, id⟩, by simp, rfl⟩

/-- A marker is read if a bracket opens. -/
theorem parseMarker_reads :
    Reads n parseMarker (fun _ => parseMarker) (Derived fun x : Option MarkerTree => x.isSome) := by
  refine reads_eatMark (fun left => ?_) (reads_pure ⟨none, rfl, rfl⟩)
  refine reads_eatWord (k := .marker) (fun word => ?_) (reads_failHere ?_)
  · refine (expectMark_reads ']').bind fun right => reads_pure ?_
    exact ⟨some ⟨left, word, right⟩, by simp, rfl⟩
  · exact ⟨_, _, some ⟨left, Classical.arbitrary _, Classical.arbitrary _⟩, by simp; rfl, rfl⟩

/-- A message is read as its definition. -/
theorem parseMessage_reads (fuel : Nat) (path : List String) :
    Reads fuel (parseMessage fuel (dotted path)) (fun d => parseMessage (fuel + d) (dotted path))
      (Derived (MessageTree.definition path)) := by
  refine expectName_reads.bind fun name => parseTag_reads.bind fun tag =>
    parseMarker_reads.bind fun marker => (expectMark_reads '\x7b').bind fun left => ?_
  refine ((parseFields_reads fuel).mono (by simp; omega)).bind fun x => reads_pure ?_
  exact ⟨⟨name, tag, marker, left, x.1, x.2⟩, by simp, rfl⟩

/-! ## Namespaces -/

/-- A path is read as its names. -/
theorem parsePath_reads (fuel : Nat) :
    Reads fuel (parsePath fuel) (fun d => parsePath (fuel + d)) (Derived PathTree.names) := by
  induction fuel with
  | zero => exact reads_tooDeep (viable_derived _)
  | succ fuel ih =>
    simp only [Nat.add_right_comm fuel 1, parsePath]
    refine expectName_reads.bind fun name => reads_eatMark (fun dot => ?_) ?_
    · refine (ih.mono (by simp)).bind fun rest => reads_pure ?_
      exact ⟨.more name dot rest, by simp, rfl⟩
    · exact reads_pure ⟨.last name, by simp, rfl⟩

/-- Joining a path and then names is joining all of them. -/
theorem intercalate_intercalate (sep : String) {path : List String} (h : path ≠ [])
    (names : List String) :
    sep.intercalate (sep.intercalate path :: names) = sep.intercalate (path ++ names) := by
  induction path with
  | nil => exact absurd rfl h
  | cons name path ih =>
    cases path with
    | nil => simp
    | cons name' path =>
      rw [String.intercalate_cons_cons, String.intercalate_cons_append, ih (by simp)]
      simp [String.intercalate_cons_cons]

/-- The path of a block is that of the block around it and its own. -/
theorem nestScope_dotted (path : List String) {names : List String} (h : names ≠ []) :
    some (nestScope (dotted path) names) = dotted (path ++ names) := by
  cases path with
  | nil => simp [nestScope, dotted, h]
  | cons name path => simp [nestScope, dotted, intercalate_intercalate]

theorem PathTree.names_ne_nil (x : PathTree) : x.names ≠ [] := by
  cases x <;> simp [PathTree.names]

/-- The text behind the last item inside namespaces with the given names. -/
def closing (path : List String) : String :=
  if path.isEmpty then "" else "\x7d"

/-- Items inside namespaces with the given names, and the token behind the last one. -/
def Enclosed (path : List String) (definitions : List Definition) (u : List Token) : Prop :=
  ∃ (items : Items) (stop : Leaf (· = closing path)),
    tokens items ++ [stop.token] = u ∧ items.definitions path = definitions

/-- Inside of a block the token behind the last item is the brace that closes it. -/
theorem Enclosed.derived {path : List String} {definitions : List Definition} {u : List Token}
    (h : Enclosed path definitions u) (hpath : path ≠ []) :
    Derived (fun x : Items × Mark '\x7d' => x.1.definitions path) definitions u := by
  obtain ⟨items, ⟨right, hright⟩, rfl, rfl⟩ := h
  rw [closing, if_neg (by simp [hpath])] at hright
  exact ⟨(items, ⟨right, hright⟩), rfl, rfl⟩

theorem parseEnd_top : parseEnd (dotted []) = eat (· == "") := rfl

/-- Inside a namespace the end of the text is stopped at. -/
theorem parseEnd_bind {α : Type} (scope : String) (p p' : Parser α) :
    (do if ← parseEnd (some scope) then p else p') = (do
      if ← eatMark '\x7d' then p
      else
        if (← peek).text == "" then expectMark '\x7d'
        p') := by
  simp only [parseEnd, bind_assoc]
  refine congrArg (eatMark '\x7d' >>= ·) (funext fun b => ?_)
  cases b with
  | true => simp
  | false =>
    simp only [Bool.false_eq_true, if_false, bind_assoc]
    refine congrArg (peek >>= ·) (funext fun t => ?_)
    split <;> simp

/-- Asking for the end reads the token that closes the block, or what comes instead. -/
theorem parseEnd_reads {F : List Definition → List Token → Prop} {p : Parser (List Definition)}
    {q : Nat → Parser (List Definition)} (path : List String)
    (hstop : ∀ stop : Leaf (· = closing path), F [] [stop.token])
    (h : Reads n p q F) :
    Reads n (do if ← parseEnd (dotted path) then pure [] else p)
      (fun d => do if ← parseEnd (dotted path) then pure [] else q d) F := by
  cases path with
  | nil => exact reads_eatEnd (fun t ht => hstop ⟨t, ht⟩) h
  | cons name path =>
    simp only [dotted, List.isEmpty_cons, Bool.false_eq_true, if_false, parseEnd_bind]
    exact reads_eatMark (fun right => reads_pure (hstop ⟨right.token, right.isOf⟩))
      (reads_refuseEnd h)

/-- Items are read up to what closes their block, and give their definitions. -/
theorem parseItems_reads (fuel : Nat) (path : List String) :
    Reads fuel (parseItems fuel (dotted path)) (fun d => parseItems (fuel + d) (dotted path))
      (Enclosed path) := by
  induction fuel generalizing path with
  | zero => exact reads_tooDeep ⟨_, _, .nil, ⟨⟨closing path, .start⟩, rfl⟩, rfl, rfl⟩
  | succ fuel ih =>
    simp only [Nat.add_right_comm fuel 1, parseItems]
    refine parseEnd_reads path (fun stop => ⟨.nil, stop, rfl, rfl⟩) ?_
    refine reads_eatWord (k := .scope) (fun keyword => ?_) <|
      reads_eatWord (k := .enum) (fun keyword => ?_) <|
      reads_eatWord (k := .message) (fun keyword => ?_) <| reads_failHere ?_
    · refine ((parsePath_reads fuel).mono (by simp)).bind fun names =>
        (expectMark_reads '\x7b').bind fun left => ?_
      rw [nestScope_dotted _ names.names_ne_nil]
      -- Inside of the block the path is not empty, so the token that ends the items is a brace.
      have hinner : path ++ names.names ≠ [] := by simp [names.names_ne_nil]
      refine Reads.bind (((ih _).mono (by omega)).imp fun _ _ h => h.derived hinner)
        fun x => Reads.map (((ih path).mono (by simp; omega)).imp ?_)
      rintro _ _ ⟨rest, stop, rfl, rfl⟩
      exact ⟨.block keyword names left x.1 x.2 rest, stop, by simp, rfl⟩
    · refine ((parseEnum_reads fuel path).mono (by simp)).bind fun decl => Reads.map ?_
      refine ((ih path).mono (by simp)).imp ?_
      rintro _ _ ⟨rest, stop, rfl, rfl⟩
      exact ⟨.enum keyword decl rest, stop, by simp, rfl⟩
    · refine ((parseMessage_reads fuel path).mono (by simp)).bind fun decl => Reads.map ?_
      refine ((ih path).mono (by simp)).imp ?_
      rintro _ _ ⟨rest, stop, rfl, rfl⟩
      exact ⟨.message keyword decl rest, stop, by simp, rfl⟩
    · exact ⟨_, _, .nil, ⟨⟨closing path, .start⟩, rfl⟩, rfl, rfl⟩

end WireSchema.Source
