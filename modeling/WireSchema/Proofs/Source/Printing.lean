import WireSchema.Proofs.Source.Concatenation
import WireSchema.Schema.Kind

/-!
# Types as they are written

A type whose parts can be written (`TypeExpr.Writable`) is read back from its text: the text of such
a type has the tokens of a derivation of that type wherever it stands, as long as no word follows it
without a blank (`Spells`). The kind of a type has the text of the type, whether the wire can hold
it or not (`Kind.toText_ofType`). Both are said of a field of this type (`parse_toText`).
-/

namespace WireSchema

/-- A kind has the text of the type that it comes from, also where the wire cannot hold a part of
    it. -/
theorem Kind.toText_ofType (t : Source.TypeExpr) : (ofType t).toText = t.toText := by
  fun_induction ofType t with
  | case1 n p hp => exact eq_of_beq (List.find?_some hp :)
  | case2 n => rfl
  | case3 n args => rfl
  | case4 element ih => exact congrArg (· ++ "[]") ih
  | case5 element n hn => rfl
  | case6 element n hn ih =>
    obtain ⟨m, rfl⟩ := Int.eq_ofNat_of_zero_le (Int.not_lt.1 hn)
    exact congrArg (· ++ ("[" ++ toString m ++ "]")) ih

namespace Source

open WireSchema.Text
open Phrase (tokens)

/-- A type that can be written: its names are names, no list of arguments is empty, and lengths are
    integers of 64 bits. -/
inductive TypeExpr.Writable : TypeExpr → Prop
  | name {n : String} : IsName n → Writable (.name n)
  | generic {n : String} {args : List TypeExpr} : IsName n → args ≠ [] →
      (∀ t ∈ args, Writable t) → Writable (.generic n args)
  | array {element : TypeExpr} {len : Option Int} : Writable element →
      (∀ n ∈ len, -9223372036854775808 ≤ n ∧ n ≤ 9223372036854775807) →
      Writable (.array element len)

/-! ## Texts of leaves -/

variable {p q : Position} {rest after : List Char} {ts : List Token} {text : String} {c : Char}

/-- A name that nothing touches is a token. -/
theorem IsName.tokenAt (h : IsName text) (hafter : touches after.head? = false) :
    TokenAt none after text.toList := by
  obtain ⟨c, word, htext, hc, hword⟩ := h
  rw [htext]
  exact .word rfl (isWordStart_iff.2 hc) (fun d hd => isWordRest_iff.2 (hword d hd)) hafter

/-- An integer that nothing touches is a token. -/
theorem IsInteger.tokenAt (h : IsInteger text) (hafter : touches after.head? = false) :
    TokenAt none after text.toList := by
  have hdigits : digitsOf text ≠ [] ∧ ∀ c ∈ digitsOf text, isDecimalDigit c = true :=
    ⟨h.1, fun c hc => (h.2.1 c hc).isDecimalDigit⟩
  rw [digitsOf] at hdigits
  generalize text.toList = chars at hdigits ⊢
  split at hdigits
  · exact .negative hdigits.1 hdigits.2 hafter
  · exact .digits rfl hdigits.1 hdigits.2 hafter

/-- The digits of a number have its value. -/
theorem digitsValue?_toDigits (n : Nat) : digitsValue? (Nat.toDigits 10 n) = some n := by
  have hall : (Nat.toDigits 10 n).all Char.isDigit = true :=
    List.all_eq_true.2 fun c hc => Nat.isDigit_of_mem_toDigits (by decide) (by decide) hc
  rw [digitsValue?, if_neg (by simp [hall, Nat.toDigits_ne_nil])]
  exact congrArg some (Nat.ofDigitChars_toDigits (by decide) (by decide))

/-- An integer of 64 bits is read back from its text. -/
theorem integerValue?_toString {n : Int}
    (h : -9223372036854775808 ≤ n ∧ n ≤ 9223372036854775807) :
    integerValue? (toString n) = some n := by
  have hcontains := contains_iff.2 h
  cases n with
  | ofNat m =>
    have htext : (toString (Int.ofNat m)).toList = Nat.toDigits 10 m := Nat.toList_repr
    rw [integerValue?, htext]
    split
    · next digits heq =>
      -- A digit is no minus sign.
      have hminus : '-'.isDigit = true :=
        Nat.isDigit_of_mem_toDigits (by decide) (by decide) (heq ▸ List.mem_cons_self)
      cases hminus
    · rw [digitsValue?_toDigits]
      exact Option.filter_some.trans (if_pos hcontains)
  | negSucc m =>
    have htext : (toString (Int.negSucc m)).toList = '-' :: Nat.toDigits 10 (m + 1) := by
      change ("-" ++ (m + 1).repr).toList = _
      rw [String.toList_append, Nat.toList_repr]
      rfl
    simp only [integerValue?, htext, digitsValue?_toDigits]
    exact Option.filter_some.trans (if_pos hcontains)

/-- A name or an integer in front of what does not touch it. -/
theorem lexes_text (htoken : TokenAt none rest text.toList) (hrest : touches rest.head? = false)
    (h : Lexes none (p.advance text.toList) rest ts q) :
    Lexes none p (text.toList ++ rest) (⟨text, p⟩ :: ts) q := by
  have hlexes := Lexes.token (matchPiece_of_tokenAt htoken) (h.behind hrest)
  rwa [String.ofList_toList] at hlexes

/-- A mark is a token in front of anything. -/
theorem lexes_mark (hc : c ∈ marks) (h : Lexes none (p.step c) rest ts q) :
    Lexes none p (c :: rest) (⟨String.singleton c, p⟩ :: ts) q := by
  obtain ⟨-, -, -, -, -, hword⟩ := marks_disjoint hc
  exact .token (matchPiece_of_tokenAt (.mark hc)) (h.congr hword.symm)

theorem advance_enclosed (p : Position) (c : Char) (s : List Char) (d : Char) :
    p.advance (c :: (s ++ [d])) = ((p.step c).advance s).step d :=
  Position.advance_append _ _ _

/-! ## Types -/

/-- The tree with a suffix behind it. -/
def TypeTree.push : TypeTree → Suffix → TypeTree
  | .plain name suffixes, x => .plain name (suffixes ++ [x])
  | .generic name left args suffixes, x => .generic name left args (suffixes ++ [x])

/-- A suffix behind a tree makes an array of its type. -/
theorem TypeTree.type_push (x : TypeTree) (suffix : Suffix) :
    (x.push suffix).type = suffix.attach x.type := by
  cases x <;> simp [push, TypeTree.type]

/-- A suffix behind a tree has its tokens behind those of the tree. -/
theorem TypeTree.tokens_push (x : TypeTree) (suffix : Suffix) :
    Phrase.tokens (x.push suffix) = Phrase.tokens x ++ Phrase.tokens suffix := by
  have happend (suffixes : List Suffix) :
      Phrase.tokens (suffixes ++ [suffix]) = Phrase.tokens suffixes ++ Phrase.tokens suffix := by
    change (suffixes ++ [suffix]).flatMap Phrase.tokens = _
    rw [List.flatMap_append, List.flatMap_singleton]
    rfl
  cases x <;> simp [push, happend]

/-- Wherever the text stands there is a tree of the type with its tokens. -/
def Spells (t : TypeExpr) : Prop :=
  ∀ p, ∃ x : TypeTree, x.type = t ∧ ∀ rest ts q, touches rest.head? = false →
    Lexes none (p.advance t.toText.toList) rest ts q →
    Lexes none p (t.toText.toList ++ rest) (tokens x ++ ts) q

/-- The text of an array suffix. -/
def lengthText (len : Option Int) : String :=
  "[" ++ (len.map toString).getD "" ++ "]"

theorem toList_lengthText (len : Option Int) :
    (lengthText len).toList = '[' :: (((len.map toString).getD "").toList ++ [']']) := by
  simp [lengthText]

theorem toText_array (element : TypeExpr) (len : Option Int) :
    (TypeExpr.array element len).toText = element.toText ++ lengthText len := by
  cases len with
  | none => rfl
  | some n => rfl

/-- The text of a length is that of a suffix, wherever it stands. -/
theorem exists_suffix {len : Option Int}
    (h : ∀ n ∈ len, -9223372036854775808 ≤ n ∧ n ≤ 9223372036854775807) (p : Position) :
    ∃ x : Suffix, (∀ type, x.attach type = .array type len) ∧ ∀ rest ts q,
      Lexes none (p.advance (lengthText len).toList) rest ts q →
      Lexes none p ((lengthText len).toList ++ rest) (tokens x ++ ts) q := by
  cases len with
  | none =>
    refine ⟨⟨⟨⟨_, p⟩, rfl⟩, none, ⟨⟨_, p.step '['⟩, rfl⟩⟩, fun _ => rfl, fun rest ts q hrest => ?_⟩
    exact lexes_mark (by decide) (lexes_mark (by decide) hrest)
  | some n =>
    obtain ⟨hinteger, hvalue⟩ := integerValue?_eq_some_iff.1 (integerValue?_toString (h n rfl))
    rw [toList_lengthText, Option.map_some, Option.getD_some]
    refine ⟨⟨⟨⟨_, p⟩, rfl⟩, some ⟨⟨toString n, p.step '['⟩, hinteger⟩,
      ⟨⟨_, (p.step '[').advance (toString n).toList⟩, rfl⟩⟩, fun type => ?_,
      fun rest ts q hrest => ?_⟩
    · rw [Suffix.attach, Option.map_some, hvalue]
    · rw [List.cons_append, List.append_assoc]
      refine lexes_mark (by decide)
        (lexes_text (hinteger.tokenAt rfl) rfl (lexes_mark (by decide) ?_))
      exact advance_enclosed p '[' (toString n).toList ']' ▸ hrest

/-- The text of arguments is that of a list of them, if each of them spells its type. -/
theorem exists_args {args : List TypeExpr} (hne : args ≠ []) (h : ∀ t ∈ args, Spells t)
    (p : Position) : ∃ y : ArgsTree, y.types = args ∧ ∀ rest ts q,
      Lexes none ((p.advance (TypeExpr.listText args).toList).step '>') rest ts q →
      Lexes none p ((TypeExpr.listText args).toList ++ '>' :: rest) (tokens y ++ ts) q := by
  induction args generalizing p with
  | nil => exact absurd rfl hne
  | cons t args ih =>
    obtain ⟨ht, hargs⟩ := List.forall_mem_cons.1 h
    obtain ⟨x, hx, hlexes⟩ := ht p
    cases args with
    | nil =>
      have htext : TypeExpr.listText [t] = t.toText := by rw [TypeExpr.listText]
      rw [htext]
      refine ⟨.last x ⟨⟨_, p.advance t.toText.toList⟩, rfl⟩, by rw [ArgsTree.types, hx],
        fun rest ts q hrest => ?_⟩
      rw [tokens_last, List.append_assoc]
      exact hlexes _ _ _ rfl (lexes_mark (by decide) hrest)
    | cons t' args =>
      obtain ⟨y, hy, hlexes'⟩ :=
        ih (by simp) hargs (((p.advance t.toText.toList).step ',').step ' ')
      have htext : (TypeExpr.listText (t :: t' :: args)).toList =
          t.toText.toList ++ ',' :: ' ' :: (TypeExpr.listText (t' :: args)).toList := by
        simp [TypeExpr.listText]
      rw [htext]
      refine ⟨.more x ⟨⟨_, p.advance t.toText.toList⟩, rfl⟩ y, by rw [ArgsTree.types, hx, hy],
        fun rest ts q hrest => ?_⟩
      rw [tokens_more, List.append_assoc, List.append_assoc]
      refine hlexes _ _ _ rfl (lexes_mark (by decide) ((lexes_blank_iff (by decide)).2 ?_))
      refine hlexes' _ _ _ ?_
      rw [Position.advance_append] at hrest
      exact hrest

/-- Each type that can be written is spelled by its text, by induction on the type. -/
theorem TypeExpr.Writable.spells {t : TypeExpr} (h : t.Writable) : Spells t := by
  induction h with
  | @name n hname =>
    intro p
    refine ⟨.plain ⟨⟨n, p⟩, hname⟩ [], rfl, fun rest ts q htouch hrest => ?_⟩
    exact lexes_text (hname.tokenAt htouch) htouch hrest
  | @generic n args hname hne _ ih =>
    intro p
    obtain ⟨y, hy, hlexes⟩ := exists_args hne ih ((p.advance n.toList).step '<')
    have htext : (TypeExpr.generic n args).toText.toList =
        n.toList ++ '<' :: ((TypeExpr.listText args).toList ++ ['>']) := by
      simp [TypeExpr.toText]
    rw [htext]
    refine ⟨.generic ⟨⟨n, p⟩, hname⟩ ⟨⟨_, p.advance n.toList⟩, rfl⟩ y [], ?_,
      fun rest ts q _ hrest => ?_⟩
    · rw [TypeTree.type, List.foldl_nil, hy]
    · rw [Position.advance_append, advance_enclosed] at hrest
      rw [tokens_generic, tokens_nil, List.append_nil, List.append_assoc, List.cons_append,
        List.append_assoc]
      exact lexes_text (hname.tokenAt rfl) rfl (lexes_mark (by decide) (hlexes _ _ _ hrest))
  | @array element len _ hlen ih =>
    intro p
    obtain ⟨x, hx, hlexes⟩ := ih p
    obtain ⟨suffix, hsuffix, hlexes'⟩ := exists_suffix hlen (p.advance element.toText.toList)
    refine ⟨x.push suffix, ?_, fun rest ts q _ hrest => ?_⟩
    · rw [TypeTree.type_push, hx, hsuffix]
    · rw [toText_array, String.toList_append] at hrest ⊢
      rw [TypeTree.tokens_push, List.append_assoc, List.append_assoc]
      refine hlexes _ _ _ ?_ (hlexes' _ _ _ (Position.advance_append _ _ _ ▸ hrest))
      rw [toList_lengthText]
      rfl

/-! ## Fields -/

theorem isName_f : IsName "f" := isIdentifier_iff.1 (by decide)

/-- The name of a field behind its type, and the end of the message. -/
theorem lexes_fieldEnd (p : Position) :
    Lexes none p (" f; \x7d").toList [⟨"f", p.step ' '⟩, ⟨";", (p.step ' ').step 'f'⟩,
      ⟨"\x7d", (((p.step ' ').step 'f').step ';').step ' '⟩] (p.advance (" f; \x7d").toList) := by
  refine (lexes_blank_iff (by decide)).2 (lexes_text (isName_f.tokenAt ?_) ?_ ?_)
  · rfl
  · rfl
  · exact lexes_mark (by decide) ((lexes_blank_iff (by decide)).2 (lexes_mark (by decide) .nil))

theorem isInteger_one : IsInteger "1" ∧ integerOf "1" = 1 :=
  integerValue?_eq_some_iff.1 (by decide)

/-- The derivation of a message with one field, whose type ends at `p`. -/
def fieldItems (x : TypeTree) (p : Position) : Items :=
  .message ⟨⟨"message", ⟨1, 1⟩⟩, rfl⟩
    { name := ⟨⟨"M", ⟨1, 9⟩⟩, isIdentifier_iff.1 (by decide)⟩
      tag := some ⟨⟨⟨"=", ⟨1, 11⟩⟩, rfl⟩, ⟨⟨"1", ⟨1, 13⟩⟩, isInteger_one.1⟩⟩
      marker := none
      left := ⟨⟨"\x7b", ⟨1, 15⟩⟩, rfl⟩
      fields := [⟨x, ⟨⟨"f", p.step ' '⟩, isName_f⟩,
        ⟨⟨";", (p.step ' ').step 'f'⟩, rfl⟩⟩]
      right := ⟨⟨"\x7d", (((p.step ' ').step 'f').step ';').step ' '⟩, rfl⟩ }
    .nil

/-- The message with one field, and where its parts stand. -/
theorem definitions_fieldItems (x : TypeTree) (p : Position) :
    (fieldItems x p).definitions [] =
      [⟨"M", none, ⟨1, 9⟩, .message (some 1) false [⟨"f", p.step ' ', x.type⟩]⟩] := by
  simp [fieldItems, Items.definitions, MessageTree.definition, FieldTree.decl, dotted,
    isInteger_one.2]

/-- Types are read back from their texts, and their kinds have the same texts. -/
theorem parse_toText (t : TypeExpr) :
    (t.Writable → ∀ label, parse ("message M = 1 \x7b " ++ t.toText ++ " f; \x7d") label =
      .ok ⟨label, [⟨"M", none, ⟨1, 9⟩, .message (some 1) false [⟨"f",
        Position.start.advance ("message M = 1 \x7b " ++ t.toText ++ " ").toList, t⟩]⟩]⟩) ∧
    (Kind.ofType t).toText = t.toText := by
  refine ⟨fun h label => ?_, Kind.toText_ofType t⟩
  obtain ⟨x, hx, hlexes⟩ := h.spells ⟨1, 17⟩
  -- The place behind the type does not depend on how far the type goes on.
  have hplace : Position.start.advance ("message M = 1 \x7b " ++ t.toText ++ " ").toList =
      ((⟨1, 17⟩ : Position).advance t.toText.toList).step ' ' := by
    rw [String.toList_append, String.toList_append, Position.advance_append,
      Position.advance_append]
    rfl
  -- What stands around the type is fixed, so its tokens are computed.
  have hhead : Lexes none .start ("message M = 1 \x7b").toList
      [⟨"message", ⟨1, 1⟩⟩, ⟨"M", ⟨1, 9⟩⟩, ⟨"=", ⟨1, 11⟩⟩, ⟨"1", ⟨1, 13⟩⟩, ⟨"\x7b", ⟨1, 15⟩⟩]
      ⟨1, 16⟩ := lexes_iff_tokenize.2 (by decide +kernel)
  have hmessage := hhead.append_blank (c := ' ') (by decide) (.inr (by decide))
    (hlexes _ _ _ (by rfl) (lexes_fieldEnd _))
  generalize (⟨1, 17⟩ : Position).advance t.toText.toList = p at hplace hmessage
  have hitems : Lexes none .start ("message M = 1 \x7b " ++ t.toText ++ " f; \x7d").toList
      (tokens (fieldItems x p)) (p.advance (" f; \x7d").toList) := by
    simpa [fieldItems] using hmessage
  rw [parse_of_lexes hitems, definitions_fieldItems, hx, hplace]

/-- An array of a generic type, one of whose arguments is an array of arrays of negative length. -/
def nestedType : TypeExpr :=
  .array (.generic "map" [.name "string", .array (.array (.name "Item") (some (-1))) none]) (some 3)

/-- A type with arguments, arrays of arrays and a negative length is read back from its text. -/
theorem parse_toText_nestedType :
    nestedType.Writable ∧ nestedType.toText = "map<string, Item[-1][]>[3]" ∧
      parse "message M = 1 \x7b map<string, Item[-1][]>[3] f; \x7d" "s" =
        .ok ⟨"s", [⟨"M", none, ⟨1, 9⟩, .message (some 1) false [⟨"f", ⟨1, 44⟩, nestedType⟩]⟩]⟩ := by
  have hname (n : String) (h : isIdentifier n = true) : (TypeExpr.name n).Writable :=
    .name (isIdentifier_iff.1 h)
  have hitems : (TypeExpr.array (.array (.name "Item") (some (-1))) none).Writable :=
    .array (.array (hname "Item" (by decide)) (by simp)) (by simp)
  have hwritable : nestedType.Writable :=
    .array (.generic (isIdentifier_iff.1 (by decide)) (by simp)
      (by simpa using ⟨hname "string" (by decide), hitems⟩)) (by simp)
  have htext : nestedType.toText = "map<string, Item[-1][]>[3]" := by decide +kernel
  have hparse := (parse_toText nestedType).1 hwritable "s"
  rw [htext] at hparse
  exact ⟨hwritable, htext, hparse⟩

end Source

end WireSchema
