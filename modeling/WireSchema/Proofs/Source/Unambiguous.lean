import WireSchema.Proofs.Source.Grammar

/-!
# The grammar is unambiguous

Tokens have at most one derivation (`Derivation.tokens_injective`). A tree is *separated* from what
follows it: the text of one token behind it decides where it ends. The law is stated at one tree and
compares it with all others, so that it can be followed from the parts of a tree to the whole.
-/

namespace WireSchema.Source

open Phrase (tokens)

/-! ## The first text -/

/-- The text of the first token, or the text behind if there is none. -/
def firstText (u : List Token) (behind : String) : String :=
  (u.head?.map Token.text).getD behind

section

variable {u v : List Token} {t : Token} {behind : String}

@[simp]
theorem firstText_nil : firstText [] behind = behind := rfl

@[simp]
theorem firstText_cons : firstText (t :: u) behind = t.text := rfl

/-- The first text of two runs is that of the first one, if it has any. -/
@[simp]
theorem firstText_append : firstText (u ++ v) behind = firstText u (firstText v behind) := by
  cases u <;> rfl

end

/-- A name is no mark. -/
theorem IsName.ne_singleton {text : String} (h : IsName text) {c : Char} (hc : ¬ IsLetter c) :
    text ≠ String.singleton c := by
  rintro rfl
  obtain ⟨d, rest, heq, hd, -⟩ := h
  obtain ⟨rfl, -⟩ := List.cons.inj (String.toList_singleton c ▸ heq)
  exact hc hd

/-! ## Separation -/

variable {T U : Type} [Phrase T] [Phrase U] {P Q : String → Prop}

/-- No other tree starts the same tokens, if the text behind each of the two satisfies `P`. -/
def Separated (x : T) (P : String → Prop) : Prop :=
  ∀ (y : T) (u v : List Token), tokens x ++ u = tokens y ++ v →
    P (firstText u "") → P (firstText v "") → x = y ∧ u = v

/-- A phrase that ends in front of texts ends in front of fewer. -/
theorem Separated.mono {x : T} (h : Separated x Q) (hPQ : ∀ text, P text → Q text) :
    Separated x P :=
  fun y u v heq hu hv => h y u v heq (hPQ _ hu) (hPQ _ hv)

/-- Two phrases in a row end where the second does, if the first ends in front of it. -/
theorem Separated.seq {x : T} {y : U} (h : Separated x P) (h' : Separated y Q)
    (hPQ : ∀ (z : U) (text : String), Q text → P (firstText (tokens z) text)) :
    Separated (x, y) Q := by
  rintro ⟨x', y'⟩ u v heq hu hv
  simp only [tokens_prod, List.append_assoc] at heq
  obtain ⟨rfl, hrest⟩ := h _ _ _ heq (by simpa using hPQ y _ hu) (by simpa using hPQ y' _ hv)
  obtain ⟨rfl, rfl⟩ := h' _ _ _ hrest hu hv
  exact ⟨rfl, rfl⟩

section

variable {sort : String → Prop} [LeafSort sort]

/-- One token ends in front of anything. -/
theorem separated_leaf (x : Leaf sort) : Separated x P := by
  intro y u v heq _ _
  obtain ⟨htoken, hrest⟩ := List.cons.inj heq
  exact ⟨Leaf.ext htoken, hrest⟩

/-- A leaf in front of a phrase changes nothing about its end. -/
theorem Separated.behind {y : U} (x : Leaf sort) (h : Separated y Q) : Separated (x, y) Q :=
  (separated_leaf (P := fun _ => True) x).seq h fun _ _ _ => trivial

/-- A tree in front of a leaf, whose sort is all that needs to be known of what follows. -/
theorem Separated.before {x : T} {y : U} (h : Separated x sort) (m : Leaf sort)
    (h' : Separated y Q) : Separated (x, m, y) Q :=
  h.seq (h'.behind m) fun z _ _ => z.1.isOf

/-- A phrase that ends in front of a leaf ends there, whatever is behind the leaf. -/
theorem Separated.last {x : T} (h : Separated x sort) (m : Leaf sort) : Separated (x, m) P :=
  h.seq (separated_leaf m) fun z _ _ => z.isOf

end

/-- What is missing or there can be told apart if it does not start like what may follow. -/
theorem separated_option {o : Option T} (h : ∀ x ∈ o, Separated x P)
    (hstart : ∀ (x : T) (text : String), ¬ P (firstText (tokens x) text)) : Separated o P := by
  intro o' u v heq hu hv
  cases o with
  | none =>
    cases o' with
    | none => exact ⟨rfl, heq⟩
    | some y =>
      rw [tokens_none, List.nil_append] at heq
      exact absurd hu (by simpa [heq] using hstart y _)
  | some x =>
    cases o' with
    | none =>
      rw [tokens_none, List.nil_append] at heq
      exact absurd hv (by simpa [← heq] using hstart x _)
    | some y =>
      obtain ⟨rfl, rfl⟩ := h x rfl _ _ _ heq hu hv
      exact ⟨rfl, rfl⟩

/-- A list ends where no other item begins. -/
theorem separated_list {xs : List T} (h : ∀ x ∈ xs, Separated x Q)
    (hstart : ∀ (x : T) (text : String), ¬ P (firstText (tokens x) text))
    (hnext : ∀ (x : T) (text : String), Q (firstText (tokens x) text))
    (hPQ : ∀ text, P text → Q text) : Separated xs P := by
  induction xs with
  | nil =>
    intro ys u v heq hu hv
    cases ys with
    | nil => exact ⟨rfl, heq⟩
    | cons y ys =>
      rw [tokens_nil, List.nil_append] at heq
      exact absurd hu (by simpa [heq] using hstart y _)
  | cons x xs ih =>
    intro ys u v heq hu hv
    cases ys with
    | nil =>
      rw [tokens_nil, List.nil_append] at heq
      exact absurd hv (by simpa [← heq] using hstart x _)
    | cons y ys =>
      obtain ⟨hx, hxs⟩ := List.forall_mem_cons.1 h
      -- Behind the first item comes another one or the end of the list.
      have hnext' (zs : List T) (text : String) (ht : P text) : Q (firstText (tokens zs) text) := by
        cases zs with
        | nil => exact hPQ _ ht
        | cons z zs => simpa using hnext z _
      obtain ⟨hpair, rfl⟩ := hx.seq (ih hxs) hnext' (y, ys) _ _ heq hu hv
      obtain ⟨rfl, rfl⟩ := Prod.mk.inj hpair
      exact ⟨rfl, rfl⟩

/-- A tree is separated if its parts are. -/
theorem Separated.ofParts {S : Type} [Phrase S] (parts : S → T) (hinj : Function.Injective parts)
    (htokens : ∀ y, tokens y = tokens (parts y)) {x : S} (h : Separated (parts x) P) :
    Separated x P := by
  intro y u v heq hu hv
  rw [htokens, htokens] at heq
  obtain ⟨hparts, rfl⟩ := h (parts y) _ _ heq hu hv
  exact ⟨hinj hparts, rfl⟩

/-! ## Each tree -/

/-- A single character that is no digit is no integer, not even a minus sign. -/
theorem IsInteger.ne_singleton {text : String} (h : IsInteger text) {c : Char} (hc : ¬ IsDigit c) :
    text ≠ String.singleton c := by
  rintro rfl
  obtain ⟨hne, hdigits, -⟩ := h
  rw [digitsOf, String.toList_singleton] at hne hdigits
  split at hne
  · simp_all
  · simp_all

theorem Suffix.separated (x : Suffix) : Separated x P := by
  refine .ofParts (fun x => (x.left, x.len, x.right)) (fun y z h => ?_) (fun _ => rfl) <|
    .behind x.left <| .last (separated_option (fun n _ => separated_leaf n) fun n _ => ?_) x.right
  · cases y
    cases z
    simpa using h
  · exact n.isOf.ne_singleton (by decide)

/-- Suffixes end in front of all but an opening bracket. -/
theorem separated_suffixes (xs : List Suffix) : Separated xs (· ≠ String.singleton '[') :=
  separated_list (Q := fun _ => True) (fun x _ => x.separated)
    (fun x _ => by simpa using x.left.isOf) (fun _ _ => trivial) fun _ _ => trivial

/-- The name of a type, what stands in angle brackets, and the suffixes. -/
def TypeTree.parts : TypeTree → Name × Option (Mark '<' × ArgsTree) × List Suffix
  | .plain name suffixes => (name, none, suffixes)
  | .generic name left args suffixes => (name, some (left, args), suffixes)

theorem tokens_typeParts (x : TypeTree) : tokens x = tokens x.parts := by
  cases x <;> simp [TypeTree.parts]

/-- The texts that no type goes on with. -/
def BehindType (text : String) : Prop :=
  text ≠ String.singleton '<' ∧ text ≠ String.singleton '['

/-- Behind a name without arguments no angle bracket opens. -/
theorem firstText_suffixes_ne (xs : List Suffix) {text : String} (h : BehindType text) :
    firstText (tokens xs) text ≠ String.singleton '<' := by
  cases xs with
  | nil => exact h.1
  | cons x xs => simp [x.left.isOf]

/-- A type ends where it cannot go on, if its arguments do. -/
theorem TypeTree.separated_of_args {x : TypeTree}
    (h : ∀ y ∈ x.parts.2.1, Separated y.2 fun _ => True) : Separated x BehindType := by
  refine .ofParts TypeTree.parts (fun y z heq => ?_) tokens_typeParts <| .behind x.parts.1 <|
    Separated.seq (P := (· ≠ String.singleton '<'))
      (separated_option (fun y hy => ?_) fun y _ => ?_)
      ((separated_suffixes x.parts.2.2).mono fun _ => And.right)
      fun xs _ => firstText_suffixes_ne xs
  · cases y <;> cases z <;> simp_all [TypeTree.parts]
  · exact ((h y hy).behind y.1).mono fun _ _ => trivial
  · simpa using y.1.isOf

theorem Leaf.text_ne {c d : Char} (x : Mark c) (y : Mark d) (h : c ≠ d) :
    x.token.text ≠ y.token.text := by
  rw [x.isOf, y.isOf]
  exact fun htext => h (String.singleton_inj.1 htext)

/-- Different marks are different tokens. -/
theorem Leaf.token_ne {c d : Char} (x : Mark c) (y : Mark d) (h : c ≠ d) : x.token ≠ y.token :=
  fun heq => x.text_ne y h (congrArg Token.text heq)

/-- Any mark but an opening bracket ends a type. -/
theorem Leaf.behindType {c : Char} (x : Mark c) (u : List Token) (h : c ≠ '<' := by decide)
    (h' : c ≠ '[' := by decide) : BehindType (firstText (x.token :: u) "") := by
  rw [firstText_cons, x.isOf]
  exact ⟨fun heq => h (String.singleton_inj.1 heq), fun heq => h' (String.singleton_inj.1 heq)⟩

mutual

/-- A type ends where neither arguments nor suffixes follow. -/
theorem TypeTree.separated : (x : TypeTree) → Separated x BehindType
  | .plain _ _ => TypeTree.separated_of_args nofun
  | .generic _ left args _ => TypeTree.separated_of_args fun y hy => by
    obtain rfl : (left, args) = y := Option.some.inj hy
    exact args.separated

/-- Arguments end with their closing bracket. -/
theorem ArgsTree.separated : (x : ArgsTree) → Separated x fun _ => True
  | .last type right => by
    intro y u v heq _ _
    cases y with
    | last type' right' =>
      simp only [tokens_last, List.append_assoc] at heq
      obtain ⟨rfl, hrest⟩ := type.separated _ _ _ heq (right.behindType _) (right'.behindType _)
      obtain ⟨hright, rfl⟩ := List.cons.inj hrest
      exact ⟨congrArg _ (Leaf.ext hright), rfl⟩
    -- One list ends where the other goes on: the same token would be two marks.
    | more type' comma rest =>
      simp only [tokens_last, tokens_more, List.append_assoc] at heq
      obtain ⟨-, hrest⟩ := type.separated _ _ _ heq (right.behindType _) (comma.behindType _)
      exact absurd (List.cons.inj hrest).1 (right.token_ne comma (by decide))
  | .more type comma rest => by
    intro y u v heq _ _
    cases y with
    | last type' right =>
      simp only [tokens_last, tokens_more, List.append_assoc] at heq
      obtain ⟨-, hrest⟩ := type.separated _ _ _ heq (comma.behindType _) (right.behindType _)
      exact absurd (List.cons.inj hrest).1 (comma.token_ne right (by decide))
    | more type' comma' rest' =>
      simp only [tokens_more, List.append_assoc] at heq
      obtain ⟨rfl, hrest⟩ := type.separated _ _ _ heq (comma.behindType _) (comma'.behindType _)
      obtain ⟨hcomma, hrest⟩ := List.cons.inj hrest
      obtain ⟨rfl, rfl⟩ := rest.separated _ _ _ hrest trivial trivial
      exact ⟨congrArg (ArgsTree.more _ · _) (Leaf.ext hcomma), rfl⟩

end

theorem MemberTree.separated (x : MemberTree) : Separated x P := by
  refine .ofParts (fun x => (x.name, x.equals, x.value, x.semicolon)) (fun y z h => ?_)
    (fun _ => rfl) <| .behind x.name <| .behind x.equals <| .behind x.value <|
    separated_leaf x.semicolon
  cases y
  cases z
  simpa using h

/-- An enum ends with its closing brace. -/
theorem EnumTree.separated (x : EnumTree) : Separated x P := by
  refine .ofParts (fun x => (x.name, x.width, x.left, x.members, x.right)) (fun y z h => ?_)
    (fun _ => rfl) <| .behind x.name <| .before (separated_option (fun w _ => ?_) fun w _ => ?_)
    x.left <| .last (separated_list (Q := fun _ => True) (fun m _ => m.separated) (fun m _ => ?_)
      (fun _ _ => trivial) fun _ _ => trivial) x.right
  · cases y
    cases z
    simpa using h
  · refine .ofParts (fun w => (w.colon, w.width)) (fun y z h => ?_) (fun _ => rfl) <|
      .behind w.colon <| separated_leaf w.width
    cases y
    cases z
    simpa using h
  · simp [w.colon.isOf]
  · exact m.name.isOf.ne_singleton (by decide)

/-- A field ends with its semicolon. -/
theorem FieldTree.separated (x : FieldTree) : Separated x P := by
  refine .ofParts (fun x => (x.type, x.name, x.semicolon)) (fun y z h => ?_) (fun _ => rfl) <|
    .before (x.type.separated.mono fun text htext => ?_) x.name <| separated_leaf x.semicolon
  · cases y
    cases z
    simpa using h
  · exact ⟨htext.ne_singleton (by decide), htext.ne_singleton (by decide)⟩

/-- A type begins with a name. -/
theorem isName_firstText (x : TypeTree) (text : String) :
    IsName (firstText (tokens x) text) := by
  cases x with
  | plain name suffixes => exact name.isOf
  | generic name left args suffixes => exact name.isOf

/-- Behind a name without an identifier no equals sign follows. -/
theorem firstText_marker_ne (marker : Option MarkerTree) (left : Mark '\x7b') (u : List Token)
    (text : String) :
    firstText (tokens marker ++ left.token :: u) text ≠ String.singleton '=' := by
  cases marker with
  | none => simp [left.isOf]
  | some marker => simp [marker.left.isOf]

/-- A message ends with its closing brace. -/
theorem MessageTree.separated (x : MessageTree) : Separated x P := by
  refine .ofParts (fun x => (x.name, x.tag, x.marker, x.left, x.fields, x.right))
    (fun y z h => ?_) (fun _ => rfl) <| .behind x.name <|
    .seq (P := (· ≠ String.singleton '=')) (separated_option (fun t _ => ?_) fun t _ => ?_)
    (.before (separated_option (fun m _ => ?_) fun m _ => ?_) x.left <|
      .last (separated_list (Q := fun _ => True) (fun f _ => f.separated) (fun f _ => ?_)
        (fun _ _ => trivial) fun _ _ => trivial) x.right) fun y _ _ => ?_
  · cases y
    cases z
    simpa using h
  · refine .ofParts (fun t => (t.equals, t.id)) (fun y z h => ?_) (fun _ => rfl) <|
      .behind t.equals <| separated_leaf t.id
    cases y
    cases z
    simpa using h
  · simpa using t.equals.isOf
  · refine .ofParts (fun m => (m.left, m.word, m.right)) (fun y z h => ?_) (fun _ => rfl) <|
      .behind m.left <| .behind m.word <| separated_leaf m.right
    cases y
    cases z
    simpa using h
  · simp [m.left.isOf]
  · -- A field begins with a name, and the brace behind the fields is none.
    rw [tokens_field, firstText_append]
    exact (isName_firstText f.type _).ne_singleton (by decide)
  · exact firstText_marker_ne y.1 y.2.1 _ _

/-- A path ends where no dot follows. -/
theorem PathTree.separated (x : PathTree) : Separated x (· ≠ String.singleton '.') := by
  induction x with
  | last name =>
    intro y u v heq hu hv
    cases y with
    | last name' =>
      obtain ⟨rfl, rfl⟩ := separated_leaf (P := fun _ => True) name name' _ _ heq trivial trivial
      exact ⟨rfl, rfl⟩
    -- The dot of the longer path would stand behind the shorter one.
    | more name' dot rest =>
      obtain ⟨-, rfl⟩ := List.cons.inj heq
      exact absurd dot.isOf hu
  | more name dot rest ih =>
    intro y u v heq hu hv
    cases y with
    | last name' =>
      obtain ⟨-, rfl⟩ := List.cons.inj heq
      exact absurd dot.isOf hv
    | more name' dot' rest' =>
      obtain ⟨heq', rfl⟩ := ((ih.behind dot).behind name) (name', dot', rest') _ _ heq hu hv
      simp only [Prod.mk.injEq] at heq'
      obtain ⟨rfl, rfl, rfl⟩ := heq'
      exact ⟨rfl, rfl⟩

/-- The texts that no item starts with. -/
def BehindItems (text : String) : Prop :=
  text = "" ∨ text = String.singleton '\x7d'

/-- The keyword that items start with. -/
def Items.keyword? : Items → Option Keyword
  | nil => none
  | block .. => some .scope
  | enum .. => some .enum
  | message .. => some .message

/-- Items begin with their first keyword, and where none are, with what is behind. -/
theorem firstText_items (x : Items) (text : String) :
    firstText (tokens x) text = x.keyword?.elim text Keyword.text := by
  cases x with
  | nil => rfl
  | block keyword => simp [Items.keyword?, keyword.isOf]
  | enum keyword => simp [Items.keyword?, keyword.isOf]
  | message keyword => simp [Items.keyword?, keyword.isOf]

/-- No keyword stands behind the last item. -/
theorem Keyword.not_behindItems (k : Keyword) : ¬ BehindItems k.text := by
  cases k <;> simp [BehindItems, Keyword.text]

theorem Leaf.not_behindItems {k : Keyword} (x : Word k) : ¬ BehindItems x.token.text := by
  rw [x.isOf]
  exact k.not_behindItems

theorem Keyword.text_injective : Function.Injective Keyword.text := by
  intro k l h
  cases k <;> cases l <;> simp_all [Keyword.text]

/-- Items with the same tokens begin with the same keyword. -/
theorem keyword?_eq_of_tokens_eq {x y : Items} {u v : List Token}
    (heq : tokens x ++ u = tokens y ++ v) (hu : BehindItems (firstText u ""))
    (hv : BehindItems (firstText v "")) : x.keyword? = y.keyword? := by
  have hfirst := congrArg (firstText · "") heq
  simp only [firstText_append, firstText_items] at hfirst
  cases hx : x.keyword? with
  | none =>
    cases hy : y.keyword? with
    | none => rfl
    | some l =>
      rw [hx, hy, Option.elim_none, Option.elim_some] at hfirst
      exact absurd (hfirst ▸ hu) l.not_behindItems
  | some k =>
    cases hy : y.keyword? with
    | none =>
      rw [hx, hy, Option.elim_none, Option.elim_some] at hfirst
      exact absurd (hfirst.symm ▸ hv) k.not_behindItems
    | some l =>
      rw [hx, hy] at hfirst
      exact congrArg some (Keyword.text_injective hfirst)

/-- Items end where no keyword follows, by induction on them. -/
theorem Items.separated (x : Items) : Separated x BehindItems := by
  -- The first keyword decides which rule the other derivation uses; then the parts are compared.
  induction x with
  | nil =>
    intro y u v heq hu hv
    cases y <;> cases keyword?_eq_of_tokens_eq heq hu hv
    exact ⟨rfl, heq⟩
  | block keyword path left inner right rest ih ih' =>
    intro y u v heq hu hv
    cases y <;> cases keyword?_eq_of_tokens_eq heq hu hv
    next keyword' path' left' inner' right' rest' =>
    have hparts : Separated (keyword, path, left, inner, right, rest) BehindItems :=
      .behind keyword <| .before (path.separated.mono (by simp)) left <|
        .before (ih.mono fun _ => .inr) right ih'
    obtain ⟨hsame, rfl⟩ := hparts (keyword', path', left', inner', right', rest') u v
      (by simpa using heq) hu hv
    simp only [Prod.mk.injEq] at hsame
    obtain ⟨rfl, rfl, rfl, rfl, rfl, rfl⟩ := hsame
    exact ⟨rfl, rfl⟩
  | enum keyword decl rest ih =>
    intro y u v heq hu hv
    cases y <;> cases keyword?_eq_of_tokens_eq heq hu hv
    next keyword' decl' rest' =>
    have hparts : Separated (keyword, decl, rest) BehindItems :=
      .behind keyword <| .seq (P := fun _ => True) decl.separated ih fun _ _ _ => trivial
    obtain ⟨hsame, rfl⟩ := hparts (keyword', decl', rest') u v (by simpa using heq) hu hv
    simp only [Prod.mk.injEq] at hsame
    obtain ⟨rfl, rfl, rfl⟩ := hsame
    exact ⟨rfl, rfl⟩
  | message keyword decl rest ih =>
    intro y u v heq hu hv
    cases y <;> cases keyword?_eq_of_tokens_eq heq hu hv
    next keyword' decl' rest' =>
    have hparts : Separated (keyword, decl, rest) BehindItems :=
      .behind keyword <| .seq (P := fun _ => True) decl.separated ih fun _ _ _ => trivial
    obtain ⟨hsame, rfl⟩ := hparts (keyword', decl', rest') u v (by simpa using heq) hu hv
    simp only [Prod.mk.injEq] at hsame
    obtain ⟨rfl, rfl, rfl⟩ := hsame
    exact ⟨rfl, rfl⟩

/-- Tokens have at most one derivation. -/
theorem Derivation.tokens_injective : Function.Injective Derivation.tokens := by
  rintro ⟨items, stop⟩ ⟨items', stop'⟩ heq
  obtain ⟨rfl, hstop⟩ := items.separated items' _ _ heq (.inl stop.isOf) (.inl stop'.isOf)
  exact congrArg _ (Leaf.ext (List.cons.inj hstop).1)

end WireSchema.Source
