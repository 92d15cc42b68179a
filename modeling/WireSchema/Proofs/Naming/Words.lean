import WireSchema.Proofs.Naming

/-!
# Words in the names of fields

The spelling of a field in generated code is its name in lower case, with an underscore in front of
each word that begins inside of the name. Where words begin is said here by the positions of the
name (`wordAt`), each with its two neighbours, while the spelling is built from the front with one
character of memory. That the two are the same (`snakeAfter_eq_separate`) gives the rest: no
underscore is put at the start, at the end or beside another one, a name that was spelled once stays
as it is, and names that are spelled alike differ in case and underscores only.
-/

namespace WireSchema.Naming

open WireSchema.Source WireSchema.Text

/-! ## Positions -/

/-- Does a word begin at a position inside of the text? An upper-case character stands there, and in
    front of it one that is neither upper case nor an underscore, or one that is upper case too if a
    lower-case one follows. -/
def wordAt (s : List Char) : Nat → Bool
  | 0 => false
  | i + 1 =>
    s[i + 1]?.any isUppercase &&
      ((s[i]?.any fun p => !isUppercase p && p != '_') ||
        (s[i]?.any isUppercase && s[i + 2]?.any isLowercase))

/-- The text with an underscore in front of each marked position, where positions count from `n`. -/
def separate (marked : Nat → Bool) (s : List Char) (n : Nat) : List Char :=
  (s.zipIdx n).flatMap fun x => if marked x.2 then ['_', x.1] else [x.1]

/-- The position is between two characters of the text that are no underscores. -/
def Between (s : List Char) : Nat → Prop
  | 0 => False
  | i + 1 => ∃ p c, s[i]? = some p ∧ s[i + 1]? = some c ∧ p ≠ '_' ∧ c ≠ '_'

/-- The mark of a character stands in front of it. -/
theorem separate_cons (marked : Nat → Bool) (c : Char) (s : List Char) (n : Nat) :
    separate marked (c :: s) n =
      (if marked n then ['_'] else []) ++ c :: separate marked s (n + 1) := by
  rw [separate, List.zipIdx_cons, List.flatMap_cons]
  cases marked n <;> rfl

/-- Only underscores are put in. -/
theorem filter_separate (marked : Nat → Bool) (s : List Char) (n : Nat) :
    (separate marked s n).filter (· != '_') = s.filter (· != '_') := by
  induction s generalizing n with
  | nil => rfl
  | cons c s ih =>
    rw [separate_cons, List.filter_append, List.filter_cons, List.filter_cons, ih]
    cases marked n <;> rfl

/-- Separating adds nothing but underscores. -/
theorem mem_separate {marked : Nat → Bool} {s : List Char} {n : Nat} {x : Char}
    (h : x ∈ separate marked s n) : x = '_' ∨ x ∈ s := by
  obtain ⟨y, hy, hx⟩ := List.mem_flatMap.1 h
  have hmem : y.1 ∈ s := List.fst_mem_of_mem_zipIdx hy
  split at hx
  · rcases List.mem_cons.1 hx with rfl | hx
    · exact .inl rfl
    · exact .inr (List.mem_singleton.1 hx ▸ hmem)
  · exact .inr (List.mem_singleton.1 hx ▸ hmem)

/-! ## Where words begin -/

/-- Behind the text `before`, the characters at both sides decide. -/
theorem wordAt_length (before : List Char) (c : Char) (rest : List Char) :
    wordAt (before ++ c :: rest) before.length =
      (isUppercase c && beginsWord before.getLast? rest.head?) := by
  rcases List.eq_nil_or_concat before with rfl | ⟨front, p, rfl⟩
  · simp [wordAt, beginsWord]
  · have hp : (front ++ [p] ++ c :: rest)[front.length]? = some p := by simp
    have hc : (front ++ [p] ++ c :: rest)[front.length + 1]? = some c := by simp
    have hnext : (front ++ [p] ++ c :: rest)[front.length + 2]? = rest.head? := by
      rw [List.append_assoc, List.getElem?_append_right (by omega), Nat.add_sub_cancel_left,
        List.head?_eq_getElem?]
      rfl
    rw [List.concat_eq_append, List.length_append, List.length_singleton, wordAt, hp, hc, hnext,
      List.getLast?_concat]
    rfl

/-- The spelling of the rest of a name, in lower case, with an underscore in front of each word. -/
theorem snakeAfter_eq_separate {rest : List Char} (h : ∀ c ∈ rest, IsWordChar c)
    (before : List Char) :
    snakeAfter before.getLast? rest =
      separate (wordAt (before ++ rest)) (rest.map Char.toLower) before.length := by
  induction rest generalizing before with
  | nil => rfl
  | cons c rest ih =>
    obtain ⟨hc, hrest⟩ := List.forall_mem_cons.1 h
    -- The text in front takes over the character, so positions and neighbours stay those of the
    -- name.
    have htail := ih hrest (before ++ [c])
    rw [List.getLast?_concat, List.append_assoc, List.length_append] at htail
    rw [snakeAfter_cons hc, List.map_cons, separate_cons, wordAt_length, isUppercase_wordChar hc,
      htail]
    rfl

/-! ## The spelling -/

/-- The lower case of a character is not in upper case. -/
theorem isUpper_toLower {c : Char} (h : IsWordChar c) : c.toLower.isUpper = false := by
  refine forall_wordChar (fun c => c.toLower.isUpper = false) ?_ h
  decide +kernel

/-- The lower case of a name is that of its characters. -/
theorem lower_wordChars {s : List Char} (hs : ∀ c ∈ s, IsWordChar c) :
    lower s = s.map Char.toLower :=
  lowerAfter_wordChars hs []

/-- A name in lower case is separated where its words begin. -/
theorem toList_snake {name : String} (h : IsName name) :
    (snake name).toList = separate (wordAt name.toList) (lower name.toList) 0 := by
  have hchars := isWordChar_of_isName h
  rw [snake, String.toList_ofList, lower_wordChars hchars]
  exact snakeAfter_eq_separate hchars []

/-- Words begin between two characters that are no underscores, and stay so in lower case. -/
theorem between_of_wordAt {s : List Char} (hs : ∀ c ∈ s, IsWordChar c) {i : Nat}
    (h : wordAt s i = true) : Between (lower s) i := by
  have hlower : ∀ {j : Nat} {c : Char}, s[j]? = some c → c ≠ '_' →
      (lower s)[j]? = some c.toLower ∧ c.toLower ≠ '_' := by
    intro j c hj hne
    rw [lower_wordChars hs, List.getElem?_map, hj]
    exact ⟨rfl, fun h => hne ((toLower_eq_underscore_iff (hs c (List.mem_of_getElem? hj))).1 h)⟩
  have hupper : ∀ {c}, isUppercase c = true → c ≠ '_' := by
    rintro c h rfl
    cases h
  cases i with
  | zero => cases h
  | succ i =>
    simp only [wordAt, Bool.and_eq_true, Bool.or_eq_true, Option.any_eq_true] at h
    obtain ⟨⟨c, hc, hcupper⟩, hp⟩ := h
    -- Either rule for the beginning of a word looks at a character in front that is no underscore.
    have hbefore : ∃ p, s[i]? = some p ∧ p ≠ '_' := by
      rcases hp with ⟨p, hp, -, hne⟩ | ⟨⟨p, hp, hpupper⟩, -⟩
      · exact ⟨p, hp, bne_iff_ne.1 hne⟩
      · exact ⟨p, hp, hupper hpupper⟩
    obtain ⟨p, hp, hne⟩ := hbefore
    exact ⟨_, _, (hlower hp hne).1, (hlower hc (hupper hcupper)).1, (hlower hp hne).2,
      (hlower hc (hupper hcupper)).2⟩

/-- No upper case is left. -/
theorem not_isUppercase_of_mem_snake {name : String} (h : IsName name) :
    ∀ x ∈ (snake name).toList, isUppercase x = false := by
  have hchars := isWordChar_of_isName h
  intro x hx
  rw [toList_snake h, lower_wordChars hchars] at hx
  rcases mem_separate hx with rfl | hx
  · rfl
  · obtain ⟨c, hc, rfl⟩ := List.mem_map.1 hx
    have hword := hchars c hc
    rw [isUppercase_wordChar (isWordChar_toLower hword), isUpper_toLower hword]

/-- What has no upper-case character is spelled as it is. -/
theorem snakeAfter_of_not_isUppercase {s : List Char} (h : ∀ c ∈ s, isUppercase c = false)
    (before : Option Char) : snakeAfter before s = s := by
  induction s generalizing before with
  | nil => rfl
  | cons c s ih =>
    obtain ⟨hc, hs⟩ := List.forall_mem_cons.1 h
    rw [snakeAfter, hc, ih hs]
    rfl

/-- Doing it again changes nothing, since the words are separated already. -/
theorem snake_snake {name : String} (h : IsName name) : snake (snake name) = snake name := by
  have hsame := snakeAfter_of_not_isUppercase (not_isUppercase_of_mem_snake h) none
  rw [snake, hsame, String.ofList_toList]

/-! ## Names that are spelled alike -/

/-- A name without its case and its underscores. -/
def bare (name : String) : List Char :=
  (lower name.toList).filter (· != '_')

/-- Escaping a keyword adds an underscore. -/
theorem filter_escapeKeyword (s : String) :
    (escapeKeyword s).toList.filter (· != '_') = s.toList.filter (· != '_') := by
  rw [escapeKeyword]
  split
  · rw [String.toList_append, List.filter_append]
    exact List.append_nil _
  · rfl

/-- Apart from underscores, an identifier has the characters of the name in lower case. -/
theorem filter_fieldIdent {name : String} (h : IsName name) :
    (fieldIdent name).toList.filter (· != '_') = bare name := by
  rw [fieldIdent, filter_escapeKeyword, toList_snake h, filter_separate, bare]

/-- The spelling of a field is its name in lower case with an underscore in front of each word that
    begins inside of it. These underscores stand between two characters that are none, so not at the
    start, not at the end and not beside another one. Spelling a name again changes nothing, and
    fields get the same identifier only if their names are the same up to case and underscores. -/
theorem snake_separates_words {name : String} (h : IsName name) :
    (∀ c ∈ (snake name).toList, isUppercase c = false) ∧
    (snake name).toList = separate (wordAt name.toList) (lower name.toList) 0 ∧
    (∀ i, wordAt name.toList i = true → Between (lower name.toList) i) ∧
    snake (snake name) = snake name ∧
    ∀ other, IsName other → fieldIdent name = fieldIdent other → bare name = bare other := by
  refine ⟨not_isUppercase_of_mem_snake h, toList_snake h,
    fun i => between_of_wordAt (isWordChar_of_isName h), snake_snake h, fun other hother heq => ?_⟩
  rw [← filter_fieldIdent h, ← filter_fieldIdent hother, heq]

/-- A name with an acronym, a digit and an underscore of its own, and one that has its words in
    another spelling. -/
theorem snake_separates_words_httpServer :
    let name := "HTTPServer2_ID"
    let other := "http_Server2Id"
    IsName name ∧ IsName other ∧ fieldIdent name = fieldIdent other ∧
    snake name = "http_server2_id" ∧
    (∀ c ∈ (snake name).toList, isUppercase c = false) ∧
    (snake name).toList = separate (wordAt name.toList) (lower name.toList) 0 ∧
    Between (lower name.toList) 4 ∧
    snake (snake name) = snake name ∧
    bare name = bare other := by
  intro name other
  have hname : IsName name := isIdentifier_iff.1 (by decide +kernel)
  have hother : IsName other := isIdentifier_iff.1 (by decide +kernel)
  have hsame : fieldIdent name = fieldIdent other := by decide +kernel
  obtain ⟨hlower, hspelling, hbetween, hagain, hbare⟩ := snake_separates_words hname
  exact ⟨hname, hother, hsame, by decide +kernel, hlower, hspelling,
    hbetween 4 (by decide +kernel), hagain, hbare other hother hsame⟩

end WireSchema.Naming
