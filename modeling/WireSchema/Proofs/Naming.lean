import WireSchema.Naming
import WireSchema.Proofs.Source.Runs

/-!
# Identifiers of generated code

The names in a schema text are words of ASCII, and generated code spells them in its own way. For
each of the two spellings it is said here when it gives an identifier that can be used.

* A field can be named by every word but the single underscore (`isIdent_fieldIdent_iff`).
* A type or a member can be named by a word if a letter follows the underscores that it begins with
  (`isIdent_typeIdent_iff`): the spelling drops them, and what is left may begin with a digit or be
  nothing at all.
-/

namespace WireSchema.Naming

open WireSchema.Source WireSchema.Text

/-- The text can be used as an identifier: it is a word, not the single underscore and no
    keyword. -/
structure IsIdent (s : String) : Prop where
  isName : IsName s
  ne_underscore : s ≠ "_"
  not_keyword : s ∉ keywords

/-! ## Characters of names -/

/-- The characters of names. -/
def IsWordChar (c : Char) : Prop :=
  IsLetter c ∨ IsDigit c

instance (c : Char) : Decidable (IsWordChar c) :=
  inferInstanceAs (Decidable (_ ∨ _))

theorem IsWordChar.isAscii {c : Char} (h : IsWordChar c) : isAscii c = true :=
  h.elim IsLetter.isAscii IsDigit.isAscii

/-- What can be checked for all of ASCII holds for the characters of names. -/
theorem forall_wordChar (P : Char → Prop)
    (h : ∀ n < 128, IsWordChar (Char.ofNat n) → P (Char.ofNat n)) {c : Char} (hc : IsWordChar c) :
    P c :=
  forall_ascii (fun c => IsWordChar c → P c) h hc.isAscii hc

/-- Changing the case of a character of a name. -/
theorem case_wordChar : ∀ {c : Char}, IsWordChar c →
    (IsWordChar c.toUpper ∧ (IsLetter c.toUpper ↔ IsLetter c) ∧ (c.toUpper = '_' ↔ c = '_')) ∧
    IsWordChar c.toLower ∧ (IsLetter c.toLower ↔ IsLetter c) ∧ (c.toLower = '_' ↔ c = '_') ∧
      (c.isUpper = false → c.toLower = c) := by
  refine @forall_wordChar _ ?_
  decide +kernel

section

variable {c : Char} (h : IsWordChar c)
include h

/-- Upper case keeps letters, digits and underscores within them. -/
theorem isWordChar_toUpper : IsWordChar c.toUpper := (case_wordChar h).1.1

theorem isLetter_toUpper_iff : IsLetter c.toUpper ↔ IsLetter c := (case_wordChar h).1.2.1

theorem toUpper_eq_underscore_iff : c.toUpper = '_' ↔ c = '_' := (case_wordChar h).1.2.2

theorem isWordChar_toLower : IsWordChar c.toLower := (case_wordChar h).2.1

theorem isLetter_toLower_iff : IsLetter c.toLower ↔ IsLetter c := (case_wordChar h).2.2.1

theorem toLower_eq_underscore_iff : c.toLower = '_' ↔ c = '_' := (case_wordChar h).2.2.2.1

/-- What is not in upper case stays as it is. -/
theorem toLower_of_not_isUpper : c.isUpper = false → c.toLower = c := (case_wordChar h).2.2.2.2

/-- On the characters of a name, the full test of upper case is that for ASCII. -/
theorem isUppercase_wordChar : isUppercase c = c.isUpper := if_pos h.isAscii

/-- On the characters of a name, upper case takes one character to one. -/
theorem upperChars_wordChar : upperChars c = [c.toUpper] := if_pos h.isAscii

theorem lowerChars_wordChar : lowerChars c = [c.toLower] := if_pos h.isAscii

end

/-- Characters of names make a name if the first one is no digit. -/
theorem isName_ofList_iff {s : List Char} (h : ∀ c ∈ s, IsWordChar c) :
    IsName (String.ofList s) ↔ ∃ c, s.head? = some c ∧ IsLetter c := by
  rw [IsName, String.toList_ofList]
  constructor
  · rintro ⟨c, rest, rfl, hc, -⟩
    exact ⟨c, rfl, hc⟩
  · rintro ⟨c, hhead, hc⟩
    obtain ⟨rest, rfl⟩ := List.head?_eq_some_iff.1 hhead
    exact ⟨c, rest, rfl, hc, fun d hd => h d (List.mem_cons_of_mem _ hd)⟩

/-- A name is made of letters, digits and underscores. -/
theorem isWordChar_of_isName {name : String} (h : IsName name) :
    ∀ c ∈ name.toList, IsWordChar c := by
  obtain ⟨c, rest, hname, hc, hrest⟩ := h
  rw [hname]
  exact List.forall_mem_cons.2 ⟨.inl hc, hrest⟩

/-! ## Keywords -/

/-- A name stays one with an underscore behind it. -/
theorem isName_append_underscore {s : String} (h : IsName s) : IsName (s ++ "_") := by
  obtain ⟨c, rest, hs, hc, hrest⟩ := h
  refine ⟨c, rest ++ ['_'], ?_, hc, List.forall_mem_append.2 ⟨hrest, ?_⟩⟩
  · rw [String.toList_append, hs]
    rfl
  · simp [IsLetter]

/-- Keywords are words that do not end in an underscore. -/
theorem keyword_spelling {k : String} (h : k ∈ keywords) :
    IsName k ∧ k.toList.getLast? ≠ some '_' := by
  have hall : keywords.all (fun k => isIdentifier k && k.toList.getLast? != some '_') = true := by
    decide +kernel
  simpa [isIdentifier_iff] using List.all_eq_true.1 hall k h

/-- With keywords escaped, a text can be used as an identifier exactly if it is a word other than
    the underscore. -/
theorem isIdent_escapeKeyword_iff {s : String} :
    IsIdent (escapeKeyword s) ↔ IsName s ∧ s ≠ "_" := by
  rw [escapeKeyword]
  split
  · next hkeyword =>
    obtain ⟨hname, hlast⟩ := keyword_spelling (List.contains_iff_mem.1 hkeyword)
    have hne : s ≠ "_" := by
      rintro rfl
      exact hlast rfl
    have hne' : s ++ "_" ≠ "_" := by
      intro h
      obtain ⟨c, rest, hs, -⟩ := hname
      simpa [hs] using congrArg String.toList h
    have hfree : s ++ "_" ∉ keywords := by
      intro h
      exact (keyword_spelling h).2 (by simp)
    exact ⟨fun _ => ⟨hname, hne⟩, fun _ => ⟨isName_append_underscore hname, hne', hfree⟩⟩
  · next hkeyword =>
    exact ⟨fun h => ⟨h.isName, h.ne_underscore⟩, fun h => ⟨h.1, h.2, by simpa using hkeyword⟩⟩

/-! ## Fields -/

/-- Each character of a word is lowered, and an underscore is put in front of it where it is upper
    case and a new word begins. -/
theorem snakeAfter_cons {c : Char} (hc : IsWordChar c) (before : Option Char) (rest : List Char) :
    snakeAfter before (c :: rest) =
      (if c.isUpper && beginsWord before rest.head? then ['_'] else []) ++
        c.toLower :: snakeAfter (some c) rest := by
  rw [snakeAfter, isUppercase_wordChar hc, lowerChars_wordChar hc]
  cases hupper : c.isUpper with
  | true => cases beginsWord before rest.head? <;> rfl
  | false =>
    rw [toLower_of_not_isUpper hc hupper]
    rfl

/-- Words are put in lower case and apart with characters of names only. -/
theorem isWordChar_of_mem_snakeAfter {s : List Char} (hs : ∀ c ∈ s, IsWordChar c)
    (before : Option Char) : ∀ x ∈ snakeAfter before s, IsWordChar x := by
  induction s generalizing before with
  | nil => exact fun _ hx => absurd hx List.not_mem_nil
  | cons c rest ih =>
    obtain ⟨hc, hrest⟩ := List.forall_mem_cons.1 hs
    rw [snakeAfter_cons hc]
    refine List.forall_mem_append.2 ⟨?_, List.forall_mem_cons.2
      ⟨isWordChar_toLower hc, ih hrest (some c)⟩⟩
    split
    · simp [IsWordChar, IsLetter]
    · exact fun _ hx => absurd hx List.not_mem_nil

/-- No character gets lost on the way, so only nothing comes to nothing. -/
theorem snakeAfter_eq_nil_iff {s : List Char} (hs : ∀ c ∈ s, IsWordChar c)
    (before : Option Char) : snakeAfter before s = [] ↔ s = [] := by
  cases s with
  | nil => simp [snakeAfter]
  | cons c rest =>
    rw [snakeAfter_cons (hs c List.mem_cons_self)]
    simp

/-- A field can be named by every word but the single underscore. -/
theorem isIdent_fieldIdent_iff {name : String} (h : IsName name) :
    IsIdent (fieldIdent name) ↔ name ≠ "_" := by
  have hchars := isWordChar_of_isName h
  obtain ⟨c, rest, hname, hc, hrest⟩ := h
  rw [hname] at hchars
  -- Nothing is put in front of the first character.
  have hsnake : snakeAfter none (c :: rest) = c.toLower :: snakeAfter (some c) rest := by
    rw [snakeAfter_cons (.inl hc)]
    simp [beginsWord]
  have hisName : IsName (snake name) := by
    rw [snake, hname, isName_ofList_iff (isWordChar_of_mem_snakeAfter hchars none), hsnake]
    exact ⟨_, rfl, (isLetter_toLower_iff (.inl hc)).2 hc⟩
  have hunderscore : snake name = "_" ↔ name = "_" := by
    rw [snake, hname, hsnake, ← String.toList_inj, String.toList_ofList, ← String.toList_inj, hname]
    change c.toLower :: _ = ['_'] ↔ c :: rest = ['_']
    rw [List.cons.injEq, List.cons.injEq, toLower_eq_underscore_iff (.inl hc),
      snakeAfter_eq_nil_iff hrest]
  rw [fieldIdent, isIdent_escapeKeyword_iff, ne_eq, hunderscore]
  exact and_iff_right hisName

/-! ## Types and members -/

/-- Names have no letter whose lower case depends on those around it. -/
theorem lowerAfter_wordChars {s : List Char} (hs : ∀ c ∈ s, IsWordChar c) (before : List Char) :
    lowerAfter before s = s.map Char.toLower := by
  induction s generalizing before with
  | nil => rfl
  | cons c rest ih =>
    obtain ⟨hc, hrest⟩ := List.forall_mem_cons.1 hs
    have hsigma : (c == 'Σ') = false := by
      refine beq_eq_false_iff_ne.2 ?_
      rintro rfl
      exact absurd hc.isAscii (by decide)
    rw [lowerAfter, hsigma, lowerChars_wordChar hc, ih hrest]
    rfl

/-- A word is capitalized by its first character, and the rest may be put in lower case. -/
theorem capitalize_cons {c : Char} {rest : List Char} (hc : IsWordChar c)
    (hrest : ∀ d ∈ rest, IsWordChar d) (lowerRest : Bool) :
    capitalize lowerRest (c :: rest) =
      c.toUpper :: if lowerRest then rest.map Char.toLower else rest := by
  rw [capitalize, upperChars_wordChar hc, lower, lowerAfter_wordChars hrest]
  rfl

/-- A capitalized word is made of characters of names. -/
theorem isWordChar_of_mem_capitalize {s : List Char} (hs : ∀ c ∈ s, IsWordChar c)
    (lowerRest : Bool) : ∀ x ∈ capitalize lowerRest s, IsWordChar x := by
  cases s with
  | nil => exact fun _ hx => absurd hx List.not_mem_nil
  | cons c rest =>
    obtain ⟨hc, hrest⟩ := List.forall_mem_cons.1 hs
    rw [capitalize_cons hc hrest]
    refine List.forall_mem_cons.2 ⟨isWordChar_toUpper hc, ?_⟩
    split
    · exact List.forall_mem_map.2 fun d hd => isWordChar_toLower (hrest d hd)
    · exact hrest

/-- Every text has a first piece. -/
theorem splitUnderscores_ne_nil (s : List Char) : splitUnderscores s ≠ [] := by
  fun_cases splitUnderscores s <;> simp

/-- A character other than an underscore belongs to the first word. -/
theorem splitUnderscores_cons {c : Char} (hc : c ≠ '_') (rest : List Char) :
    ∃ word words, splitUnderscores rest = word :: words ∧
      splitUnderscores (c :: rest) = (c :: word) :: words := by
  obtain ⟨word, words, hsplit⟩ := List.exists_cons_of_ne_nil (splitUnderscores_ne_nil rest)
  refine ⟨word, words, hsplit, ?_⟩
  rw [splitUnderscores, if_neg (by simpa using hc), hsplit]

/-- The words of a name have its characters. -/
theorem mem_of_mem_splitUnderscores {s word : List Char} (h : word ∈ splitUnderscores s) :
    ∀ c ∈ word, c ∈ s := by
  induction s generalizing word with
  | nil => simp_all [splitUnderscores]
  | cons d rest ih =>
    by_cases hd : d = '_'
    · subst hd
      rcases List.mem_cons.1 h with rfl | h
      · exact fun _ hx => absurd hx List.not_mem_nil
      · exact fun c hc => List.mem_cons_of_mem _ (ih h c hc)
    · obtain ⟨first, words, hrest, hsplit⟩ := splitUnderscores_cons hd rest
      rw [hsplit] at h
      rw [hrest] at ih
      rcases List.mem_cons.1 h with rfl | h
      · intro c hc
        rcases List.mem_cons.1 hc with rfl | hc
        · exact List.mem_cons_self
        · exact List.mem_cons_of_mem _ (ih List.mem_cons_self c hc)
      · exact fun c hc => List.mem_cons_of_mem _ (ih (List.mem_cons_of_mem _ h) c hc)

/-- The name of a type is made of characters of names. -/
theorem isWordChar_of_mem_pascalChars {s : List Char} (hs : ∀ c ∈ s, IsWordChar c) :
    ∀ x ∈ pascalChars s, IsWordChar x := by
  intro x hx
  rw [pascalChars] at hx
  split at hx
  · obtain ⟨word, hword, hx⟩ := List.mem_flatMap.1 hx
    have hpiece := mem_of_mem_splitUnderscores (List.mem_filter.1 hword).1
    exact isWordChar_of_mem_capitalize (fun c hc => hs c (hpiece c hc)) true x hx
  · exact isWordChar_of_mem_capitalize hs _ x hx

/-- The first character behind the underscores that a text begins with. -/
def firstChar? (s : List Char) : Option Char :=
  (s.dropWhile (· == '_')).head?

/-- The first character is one that is no underscore. -/
theorem firstChar?_ne_underscore (s : List Char) : firstChar? s ≠ some '_' := by
  intro h
  have hnot := List.head?_dropWhile_not (· == '_') s
  rw [← firstChar?, h] at hnot
  simp at hnot

theorem mem_of_firstChar? {s : List Char} {c : Char} (h : firstChar? s = some c) : c ∈ s :=
  (List.dropWhile_suffix _).subset (List.mem_of_head? h)

/-- Capitalized words begin with the first character of the first word that is not empty. -/
theorem head?_capitalize_words {s : List Char} (hs : ∀ c ∈ s, IsWordChar c) :
    (((splitUnderscores s).filter (!·.isEmpty)).flatMap (capitalize true)).head? =
      (firstChar? s).map Char.toUpper := by
  induction s with
  | nil => rfl
  | cons c rest ih =>
    obtain ⟨hc, hrest⟩ := List.forall_mem_cons.1 hs
    by_cases hne : c = '_'
    · subst hne
      exact ih hrest
    · obtain ⟨word, words, -, hsplit⟩ := splitUnderscores_cons hne rest
      rw [hsplit, firstChar?, List.dropWhile_cons_of_neg (by simpa using hne)]
      simp [capitalize, upperChars_wordChar hc]

/-- Leading underscores are dropped and the first character behind them is put in upper case. -/
theorem head?_pascalChars {s : List Char} (hs : ∀ c ∈ s, IsWordChar c) :
    (pascalChars s).head? = (firstChar? s).map Char.toUpper := by
  rw [pascalChars]
  split
  case isTrue => exact head?_capitalize_words hs
  case isFalse hnone =>
    cases s with
    | nil => rfl
    | cons c rest =>
      obtain ⟨hc, hrest⟩ := List.forall_mem_cons.1 hs
      have hne : c ≠ '_' := by
        rintro rfl
        exact hnone (by simp)
      rw [capitalize_cons hc hrest, firstChar?, List.dropWhile_cons_of_neg (by simpa using hne)]
      rfl

/-- Does a letter follow the underscores that a name begins with? -/
def LetterFirst (name : String) : Prop :=
  ∃ c, firstChar? name.toList = some c ∧ IsLetter c

/-- The name of a definition or of an enum member becomes an identifier unless it has underscores
    only, or a digit behind those that it begins with. -/
theorem isIdent_typeIdent_iff {name : String} (h : IsName name) :
    IsIdent (typeIdent name) ↔ LetterFirst name := by
  have hs := isWordChar_of_isName h
  have hhead := head?_pascalChars hs
  rw [typeIdent, isIdent_escapeKeyword_iff, pascal,
    isName_ofList_iff (isWordChar_of_mem_pascalChars hs), hhead]
  have hletters : (∃ x, (firstChar? name.toList).map Char.toUpper = some x ∧ IsLetter x) ↔
      LetterFirst name := by
    constructor
    · rintro ⟨x, hx, hletter⟩
      obtain ⟨c, hfirst, rfl⟩ := Option.map_eq_some_iff.1 hx
      exact ⟨c, hfirst, (isLetter_toUpper_iff (hs c (mem_of_firstChar? hfirst))).1 hletter⟩
    · rintro ⟨c, hfirst, hletter⟩
      exact ⟨c.toUpper, congrArg _ hfirst,
        (isLetter_toUpper_iff (hs c (mem_of_firstChar? hfirst))).2 hletter⟩
  rw [hletters]
  refine and_iff_left fun hunderscore => ?_
  -- an underscore at the front would be the upper case of the first character that is none
  have hchars : pascalChars name.toList = ['_'] := String.ofList_injective hunderscore
  rw [hchars] at hhead
  obtain ⟨c, hfirst, hupper⟩ := Option.map_eq_some_iff.1 hhead.symm
  rw [(toUpper_eq_underscore_iff (hs c (mem_of_firstChar? hfirst))).1 hupper] at hfirst
  exact firstChar?_ne_underscore _ hfirst

end WireSchema.Naming
