import WireSchema.Proofs.Schema.Nesting

/-!
# Kinds without bytes

A kind is *weightless* if its values take no bytes: an array of no elements, an array of weightless
elements, or a message whose fields are all weightless. `Model.takesNothing` decides this by a
search that keeps the names it is inside of; without circles of inline nesting the search never
meets one of them again and is exact (`takesNothing_iff`).
-/

namespace WireSchema

/-- A kind with its elements, their elements and so on. -/
def Kind.parts : Kind → List Kind
  | .array element len => .array element len :: element.parts
  | k => [k]

namespace Model

variable {model : Model}

/-- The values of a kind take no bytes. -/
inductive Weightless (model : Model) : Kind → Prop
  | empty (element : Kind) : Weightless model (.array element (.fixed 0))
  | fixed {element : Kind} (n : Nat) (h : Weightless model element) :
      Weightless model (.array element (.fixed n))
  | message {m : Message} (hm : m ∈ model.messages)
      (h : ∀ f ∈ m.fields, Weightless model f.kind) : Weightless model (.named m.name)

theorem message?_eq_some {name : String} {m : Message} (h : model.message? name = some m) :
    m ∈ model.messages ∧ m.name = name :=
  lookUp?_eq_some h

/-- With distinct names, a message is found by its name. -/
theorem message?_of_mem (hnames : (model.messages.map Message.name).Nodup) {m : Message}
    (hm : m ∈ model.messages) : model.message? m.name = some m :=
  lookUp?_of_mem hnames hm

/-- The fields of a message that takes no bytes take none. -/
theorem Weightless.field (hnames : (model.messages.map Message.name).Nodup) {m : Message}
    (hm : m ∈ model.messages) (h : model.Weightless (.named m.name)) {f : Field}
    (hf : f ∈ m.fields) : model.Weightless f.kind := by
  generalize hkind : Kind.named m.name = kind at h
  cases h with
  | empty | fixed => cases hkind
  | message hm' h' =>
    rw [List.inj_on_of_nodup_map hnames hm hm' (Kind.named.inj hkind)] at hf
    exact h' f hf

/-! ## Soundness -/

/-- The test is right about a kind if it is right about names. -/
theorem weightless_of_takesNothing {named : String → Bool}
    (hnamed : ∀ name, named name = true → model.Weightless (.named name)) {kind : Kind}
    (h : kind.takesNothing named = true) : model.Weightless kind := by
  fun_induction Kind.takesNothing named kind with
  | case1 | case4 | case5 => cases h
  | case2 element n ih =>
    rcases Bool.or_eq_true_iff.1 h with hn | helement
    · rw [eq_of_beq hn]
      exact .empty element
    · exact .fixed n (ih helement)
  | case3 name => exact hnamed name h

/-- A name that passes the test takes no bytes, however deep the test looks. -/
theorem weightless_of_nameTakesNothing {depth : Nat} {visiting : List String} {name : String}
    (h : model.nameTakesNothing depth visiting name = true) : model.Weightless (.named name) := by
  induction depth generalizing visiting name with
  | zero => cases h
  | succ depth ih =>
    rw [nameTakesNothing] at h
    cases hm : model.messages.find? fun m => m.name == name with
    | none =>
      rw [hm] at h
      cases h
    | some m =>
      rw [hm] at h
      have hmem := List.mem_of_find?_eq_some hm
      obtain rfl : m.name = name := eq_of_beq (List.find?_some hm :)
      have hfields := List.all_eq_true.1 (Bool.and_eq_true_iff.1 h).2
      exact .message hmem fun f hf => weightless_of_takesNothing (fun _ => ih) (hfields f hf)

/-! ## Completeness -/

/-- A kind without bytes passes the test if the messages it stores do. -/
theorem takesNothing_of_weightless {named : String → Bool} {kind : Kind}
    (h : model.Weightless kind)
    (hnamed : ∀ m ∈ model.messages, kind.Stores m.name → model.Weightless (.named m.name) →
      named m.name = true) :
    kind.takesNothing named = true := by
  induction h with
  | empty element => rfl
  | fixed n h ih =>
    rw [Kind.takesNothing, ih fun m hm hstores => hnamed m hm (.fixed n hstores), Bool.or_true]
  | message hm h => exact hnamed _ hm (.named _) (.message hm h)

/-- A search that has gone down in rank all the way finds every weightless message, if it may still
    go as deep as the rank. -/
theorem nameTakesNothing_of_weightless (hnames : (model.messages.map Message.name).Nodup)
    {rank : String → Nat} (hdown : ∀ a b, model.StoresInline a b → rank b.name < rank a.name)
    {depth : Nat} {visiting : List String} {m : Message} (hm : m ∈ model.messages)
    (hvisiting : ∀ name ∈ visiting, rank m.name < rank name) (hdepth : rank m.name < depth)
    (h : model.Weightless (.named m.name)) :
    model.nameTakesNothing depth visiting m.name = true := by
  induction depth generalizing visiting m with
  | zero => exact absurd hdepth (Nat.not_lt_zero _)
  | succ depth ih =>
    -- All names on the way down have a higher rank, so the search does not cut itself off here.
    have hnew : m.name ∉ visiting := fun hmem => Nat.lt_irrefl _ (hvisiting _ hmem)
    rw [nameTakesNothing, find?_key_of_nodup hnames hm]
    refine Bool.and_eq_true_iff.2 ⟨by simpa using hnew, List.all_eq_true.2 fun f hf => ?_⟩
    refine takesNothing_of_weightless (h.field hnames hm hf) fun b hb hstores hweightless => ?_
    have hlt := hdown m b ⟨hm, hb, f, hf, hstores⟩
    refine ih hb (fun name hname => ?_) (by omega) hweightless
    rcases List.mem_cons.1 hname with rfl | hname
    · exact hlt
    · exact Nat.lt_trans hlt (hvisiting name hname)

/-- In a model without circles and with distinct names, the search is exact. -/
theorem takesNothing_iff (hnames : (model.messages.map Message.name).Nodup)
    (hcycles : model.cycles = []) {kind : Kind} :
    model.takesNothing kind = true ↔ model.Weightless kind := by
  refine ⟨weightless_of_takesNothing fun _ => weightless_of_nameTakesNothing, fun h => ?_⟩
  obtain ⟨rank, hlt, hdown⟩ := exists_nameRank hnames hcycles
  refine takesNothing_of_weightless h fun m hm _ hweightless => ?_
  exact nameTakesNothing_of_weightless hnames hdown hm (by simp)
    (Nat.lt_succ_of_lt (hlt m hm)) hweightless

/-- A kind has empty elements if one of the counted arrays in it has elements without bytes. -/
theorem hasEmptyElements_iff (hnames : (model.messages.map Message.name).Nodup)
    (hcycles : model.cycles = []) {kind : Kind} :
    model.hasEmptyElements kind = true ↔
      ∃ element, .array element .counted ∈ kind.parts ∧ model.Weightless element := by
  fun_induction hasEmptyElements model kind with
  | case1 element ih =>
    rw [Bool.or_eq_true, takesNothing_iff hnames hcycles, ih]
    simp only [Kind.parts, List.mem_cons, or_and_right, exists_or, Kind.array.injEq, and_true,
      exists_eq_left]
  | case2 element n ih => simpa [Kind.parts] using ih
  | case3 kind hcounted hfixed =>
    cases kind with
    | array element len =>
      cases len with
      | counted => exact absurd rfl (hcounted element)
      | fixed n => exact absurd rfl (hfixed element n)
    | primitive | named | unsupported => simp [Kind.parts]

end Model

end WireSchema
