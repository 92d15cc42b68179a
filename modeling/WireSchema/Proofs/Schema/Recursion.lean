import WireSchema.Proofs.Schema.WellFormed

/-!
# Inline recursion is found exactly

A message that stores itself inline, directly or through others, would have no end. Which messages
do is a question about the graph of inline storage (`Model.StoresInline`). The check searches this
graph and reports the circles that it closes. For models with distinct names:

* the search comes to an end by itself and visits every message once (`walkWithin_eq`,
  `fullWalk_done_perm`), so its bound on the depth is never felt and all marks end up black
  (`search_eq`);
* what is reported is a circle, spelled by the names of its messages (`exists_circle_of_report`);
* every step of the graph that does not end a reported circle goes down in a rank, so that the graph
  has no circles without those that do (`not_transGen_open`).

Reports are looked up among all problems of a model. No other check reports a circle
(`recursiveNesting_mem_problems_iff`).
-/

namespace WireSchema

/-! ## Who reports circles -/

/-- The problem is one of inline recursion. -/
def Problem.IsRecursion : Problem → Prop
  | recursiveNesting _ _ _ => True
  | _ => False

/-- None of the problems is one of inline recursion. -/
def NoRecursion (problems : List Problem) : Prop :=
  ∀ p ∈ problems, ¬p.IsRecursion

theorem noRecursion_nil : NoRecursion [] := by simp [NoRecursion]

theorem noRecursion_cons {p : Problem} {ps : List Problem} :
    NoRecursion (p :: ps) ↔ ¬p.IsRecursion ∧ NoRecursion ps :=
  List.forall_mem_cons

theorem noRecursion_append {ps qs : List Problem} :
    NoRecursion (ps ++ qs) ↔ NoRecursion ps ∧ NoRecursion qs :=
  List.forall_mem_append

/-- A check that reports no recursion reports none over a whole list. -/
theorem noRecursion_flatMap {α : Type} {check : α → List Problem} (h : ∀ a, NoRecursion (check a))
    (as : List α) : NoRecursion (as.flatMap check) := by
  intro p hp
  obtain ⟨a, -, hp⟩ := List.mem_flatMap.1 hp
  exact h a p hp

/-- A check that reports no recursion in a field reports none in the whole model. -/
theorem Model.eachField_noRecursion {check : Message → Field → List Problem}
    (h : ∀ m f, NoRecursion (check m f)) (model : Model) : NoRecursion (model.eachField check) :=
  noRecursion_flatMap (fun m => noRecursion_flatMap (h m) m.fields) model.messages

/-- The check of identifiers reports no recursion, and so it is with all checks but one. -/
theorem idProblems_noRecursion (seen ms : List Message) : NoRecursion (idProblems seen ms) := by
  fun_induction idProblems seen ms with
  | case1 => exact noRecursion_nil
  | case2 seen m rest _ ih => exact noRecursion_cons.2 ⟨id, ih⟩
  | case3 seen m rest _ first _ ih => exact noRecursion_cons.2 ⟨id, ih⟩
  | case4 seen m rest _ _ ih => exact ih

theorem typeNameProblems_noRecursion (seen names : List (String × Location)) :
    NoRecursion (typeNameProblems seen names) := by
  fun_induction typeNameProblems seen names with
  | case1 => exact noRecursion_nil
  | case2 seen name location rest _ ih => exact noRecursion_cons.2 ⟨id, ih⟩
  | case3 seen name location rest _ first _ ih => exact noRecursion_cons.2 ⟨id, ih⟩
  | case4 seen name location rest _ _ ih => exact ih

theorem fieldNameProblems_noRecursion (owner : String) (seen : List (String × String))
    (fields : List Field) : NoRecursion (fieldNameProblems owner seen fields) := by
  fun_induction fieldNameProblems owner seen fields with
  | case1 => exact noRecursion_nil
  | case2 seen f rest first _ ih => exact noRecursion_cons.2 ⟨id, ih⟩
  | case3 seen f rest _ ih => exact ih

theorem memberProblems_noRecursion (e : Enumeration) (names : List (String × String))
    (values : List (Int × String)) (members : List Member) :
    NoRecursion (memberProblems e names values members) := by
  induction members generalizing names values with
  | nil => exact noRecursion_nil
  | cons m members ih =>
    rw [memberProblems, noRecursion_append, noRecursion_append, noRecursion_append]
    refine ⟨⟨⟨?_, ?_⟩, ?_⟩, ih _ _⟩ <;> split <;> simp [NoRecursion, Problem.IsRecursion]

theorem enumProblems_noRecursion (e : Enumeration) : NoRecursion (enumProblems e) := by
  rw [enumProblems]
  split
  · exact noRecursion_cons.2 ⟨id, noRecursion_nil⟩
  · exact memberProblems_noRecursion _ _ _ _

theorem kindProblems_noRecursion (m : Message) (f : Field) : NoRecursion (kindProblems m f) := by
  rw [kindProblems, noRecursion_append]
  refine ⟨?_, ?_⟩ <;> split <;> simp [NoRecursion, Problem.IsRecursion]

theorem referenceProblems_noRecursion (model : Model) (m : Message) (f : Field) :
    NoRecursion (referenceProblems model m f) := by
  rw [referenceProblems]
  split
  · split <;> simp [NoRecursion, Problem.IsRecursion]
  · exact noRecursion_nil

theorem emptinessProblems_noRecursion (m : Message) : NoRecursion (emptinessProblems m) := by
  rw [emptinessProblems]
  split <;> simp [NoRecursion, Problem.IsRecursion]

theorem elementProblems_noRecursion (model : Model) (m : Message) (f : Field) :
    NoRecursion (elementProblems model m f) := by
  rw [elementProblems]
  split <;> simp [NoRecursion, Problem.IsRecursion]

namespace Model

variable {model : Model}

/-- Circles are reported by the walk and by no other check. -/
theorem recursiveNesting_mem_problems_iff {owner : String} {path : List String}
    {location : Location} : .recursiveNesting owner path location ∈ model.problems ↔
      ∃ c ∈ model.cycles, model.cycleProblem? c = some (.recursiveNesting owner path location) := by
  have hother : ∀ {ps : List Problem},
      NoRecursion ps → .recursiveNesting owner path location ∉ ps :=
    fun hps hp => hps _ hp trivial
  simp only [problems, List.mem_append, ← List.mem_filterMap,
    hother (idProblems_noRecursion _ _),
    hother (eachField_noRecursion kindProblems_noRecursion model),
    hother (eachField_noRecursion (referenceProblems_noRecursion model) model),
    hother (noRecursion_flatMap emptinessProblems_noRecursion _),
    hother (typeNameProblems_noRecursion _ _),
    hother (noRecursion_flatMap
      (fun m : Message => fieldNameProblems_noRecursion m.name [] m.fields) _),
    hother (noRecursion_flatMap enumProblems_noRecursion _),
    hother (eachField_noRecursion (elementProblems_noRecursion model) model),
    false_or, or_false]

/-! ## The walk ends -/

/-- From a position that is not on the path, more depth changes nothing. -/
theorem walkFrom_eq {depth depth' : Nat} {path : List Nat} {u : Nat}
    (hdepth : model.messages.length ≤ path.length + depth)
    (hdepth' : model.messages.length ≤ path.length + depth') (hnodup : (u :: path).Nodup)
    (hlt : ∀ w ∈ u :: path, w < model.messages.length) (walk : Walk) :
    model.walkFrom depth path walk u = model.walkFrom depth' path walk u := by
  have hlength := length_lt_of_nodup hnodup hlt
  induction depth generalizing depth' path u walk with
  | zero => omega
  | succ depth ih =>
    obtain ⟨depth', rfl⟩ := Nat.exists_eq_succ_of_ne_zero (show depth' ≠ 0 by omega)
    have hvisit : ∀ walk, ∀ v ∈ model.inlineAt u,
        visit (model.walkFrom depth (u :: path)) (u :: path) walk v =
          visit (model.walkFrom depth' (u :: path)) (u :: path) walk v := by
      intro walk v hstep
      rw [visit, visit]
      split
      · rfl
      · next hpath =>
        -- The walk goes on from a position that is not on the path, so the path gets longer.
        rw [List.contains_iff_mem] at hpath
        have hnodup' : (v :: u :: path).Nodup := List.nodup_cons.2 ⟨hpath, hnodup⟩
        have hlt' : ∀ w ∈ v :: u :: path, w < model.messages.length :=
          Step.lt_of_mem_cons hstep hlt
        have hon : model.walkFrom depth (u :: path) walk v =
            model.walkFrom depth' (u :: path) walk v :=
          ih (by rw [List.length_cons]; omega) (by rw [List.length_cons]; omega) hnodup' hlt' walk
            (length_lt_of_nodup hnodup' hlt')
        rw [hon]
    rw [walkFrom, walkFrom, List.foldl_ext _ _ walk hvisit]

/-- No walk goes deeper than there are messages. -/
theorem walkWithin_eq {depth : Nat} (h : model.messages.length ≤ depth) :
    model.walkWithin depth = model.fullWalk := by
  refine List.foldl_ext _ _ _ fun walk u hu => ?_
  have hlt : ∀ w ∈ [u], w < model.messages.length := by simpa using hu
  rw [walkFrom_eq (by simpa using h) (Nat.le_add_left _ _) (List.nodup_singleton u) hlt walk]

/-- Every message is finished once. -/
theorem fullWalk_done_perm (model : Model) :
    model.fullWalk.done.Perm (List.range model.messages.length) := by
  obtain ⟨hinv, hall⟩ := model.fullWalk_spec
  rw [List.perm_ext_iff_of_nodup hinv.nodup List.nodup_range]
  intro u
  rw [List.mem_range]
  exact ⟨hinv.lt u, hall u⟩

/-- The search leaves nothing on its stack and everything finished, whatever its depth. -/
theorem search_eq {depth : Nat} (h : model.messages.length ≤ depth) :
    model.search depth = ⟨List.replicate model.messages.length .black, [], model.cycles⟩ := by
  have hreflects := model.search_reflects depth
  rw [walkWithin_eq h] at hreflects
  have hmarks : (model.search depth).marks = List.replicate model.messages.length .black := by
    refine List.ext_getElem? fun u => ?_
    by_cases hu : u < model.messages.length
    · have hmark := hreflects.mark_eq u hu
      rw [if_neg List.not_mem_nil, if_pos (model.fullWalk_spec.2 u hu), Search.mark,
        List.getD_eq_getElem?_getD, List.getElem?_eq_getElem (hreflects.length_marks ▸ hu),
        Option.getD_some] at hmark
      rw [List.getElem?_eq_getElem (hreflects.length_marks ▸ hu), hmark,
        List.getElem?_replicate_of_lt hu]
    · rw [List.getElem?_eq_none (by rw [hreflects.length_marks]; omega),
        List.getElem?_eq_none (by rw [List.length_replicate]; omega)]
  have hcycles := hreflects.cycles_eq
  rw [← cycles_eq] at hcycles
  generalize model.search depth = search at hmarks hcycles hreflects ⊢
  obtain ⟨marks, stack, cycles⟩ := search
  rw [show marks = _ from hmarks, show stack = [] from hreflects.stack_eq,
    show cycles = _ from hcycles]

/-! ## What is reported -/

/-- The messages at given positions. -/
def messagesAt (model : Model) (positions : List Nat) : List Message :=
  positions.filterMap fun u => model.messages[u]?

/-- Positions that lead on to one another hold messages that store one another. -/
theorem isChain_messagesAt (hnames : (model.messages.map Message.name).Nodup) {c : List Nat}
    (h : c.IsChain model.Step) : (model.messagesAt c).IsChain model.StoresInline := by
  induction h with
  | nil => exact .nil
  | singleton u =>
    rw [messagesAt, List.filterMap_cons]
    split
    · exact .nil
    · exact .singleton _
  | cons_cons hstep _ ih =>
    obtain ⟨a, b, ha, hb, hab⟩ := (step_iff_storesInline hnames).1 hstep
    rw [messagesAt, List.filterMap_cons_some hb] at ih
    rw [messagesAt, List.filterMap_cons_some ha, List.filterMap_cons_some hb]
    exact List.isChain_cons_cons.2 ⟨hab, ih⟩

/-- The report of a cycle names the message it closes at and the messages along it. -/
theorem cycleProblem?_eq_some_iff {c : List Nat} {p : Problem} :
    model.cycleProblem? c = some p ↔ ∃ u m, c.getLast? = some u ∧ model.messages[u]? = some m ∧
      p = .recursiveNesting m.name ((model.messagesAt c).map Message.name) m.location := by
  simp only [cycleProblem?, Option.bind_eq_bind, Option.bind_eq_some_iff, Option.pure_def,
    Option.some.injEq]
  refine ⟨?_, ?_⟩
  · rintro ⟨u, hu, m, hm, rfl⟩
    exact ⟨u, m, hu, hm, rfl⟩
  · rintro ⟨u, m, hu, hm, rfl⟩
    exact ⟨u, hu, m, hm, rfl⟩

/-- What is reported is a circle from the named message back to it. -/
theorem exists_circle_of_report (hnames : (model.messages.map Message.name).Nodup) {owner : String}
    {path : List String} {location : Location}
    (h : .recursiveNesting owner path location ∈ model.problems) :
    ∃ m between, owner = m.name ∧ location = m.location ∧
      path = (m :: between ++ [m]).map Message.name ∧
      (m :: between ++ [m]).IsChain model.StoresInline := by
  obtain ⟨c, hc, hproblem⟩ := recursiveNesting_mem_problems_iff.1 h
  obtain ⟨u, m, hu, hm, hreport⟩ := cycleProblem?_eq_some_iff.1 hproblem
  obtain ⟨hchain, u', between, rfl⟩ := isCircle_of_mem_cycles hc
  obtain rfl : u' = u := Option.some.inj (List.getLast?_concat.symm.trans hu)
  have hat : model.messagesAt (u' :: between ++ [u']) = m :: model.messagesAt between ++ [m] := by
    simp [messagesAt, List.filterMap_append, hm]
  have hstores := isChain_messagesAt hnames hchain
  rw [hat] at hreport hstores
  cases hreport
  exact ⟨m, _, rfl, rfl, rfl, hstores⟩

/-! ## Steps that end reported circles -/

/-- The path of a reported circle ends with the step from one message to another. -/
def Closes (model : Model) (a b : Message) : Prop :=
  ∃ owner front location,
    .recursiveNesting owner (front ++ [a.name, b.name]) location ∈ model.problems

/-- The circles that the walk closes are all reported. -/
theorem EndsCircle.closes {a b : Message} (h : model.EndsCircle a b) : model.Closes a b := by
  obtain ⟨c, hc, u, v, ⟨front, rfl⟩, ha, hb⟩ := h
  obtain ⟨p, hp⟩ := Option.isSome_iff_exists.1 (cycleProblem?_isSome hc)
  obtain ⟨w, m, -, -, rfl⟩ := cycleProblem?_eq_some_iff.1 hp
  refine ⟨m.name, (model.messagesAt front).map Message.name, m.location, ?_⟩
  have hat : model.messagesAt (front ++ [u, v]) = model.messagesAt front ++ [a, b] := by
    simp [messagesAt, List.filterMap_append, ha, hb]
  rw [hat, List.map_append] at hp
  exact recursiveNesting_mem_problems_iff.2 ⟨_, hc, hp⟩

/-- Without the steps that end reported circles, no message stores itself. -/
theorem not_transGen_open (hnames : (model.messages.map Message.name).Nodup) (m : Message) :
    ¬Relation.TransGen (fun a b => model.StoresInline a b ∧ ¬model.Closes a b) m m := by
  obtain ⟨rank, -, hdown⟩ := exists_openRank hnames
  have hopen : ∀ a b, model.StoresInline a b ∧ ¬model.Closes a b → rank b.name < rank a.name :=
    fun a b hab => (hdown a b hab.1).resolve_right fun h => hab.2 h.closes
  exact not_transGen_self hopen m

/-- Every circle takes a step that ends a reported one. -/
theorem exists_closing_of_circle (hnames : (model.messages.map Message.name).Nodup) {m : Message}
    {between : List Message} (h : (m :: between ++ [m]).IsChain model.StoresInline) :
    ∃ front a b back, m :: between ++ [m] = front ++ a :: b :: back ∧ model.Closes a b := by
  by_contra hnone
  have hopen : (m :: between ++ [m]).IsChain fun a b =>
      model.StoresInline a b ∧ ¬model.Closes a b := by
    rw [List.isChain_iff_forall_rel_of_append_cons_cons] at h ⊢
    intro a b front back heq
    exact ⟨h heq, fun hcloses => hnone ⟨front, a, b, back, heq, hcloses⟩⟩
  exact not_transGen_open hnames m (transGen_of_isChain hopen)

/-- The search over inline storage comes to an end by itself, however deep it may go: it leaves its
    stack empty and all messages marked as finished. It is a walk that finishes every message once.
    It reports nothing exactly if no message stores itself; a report is a circle from
    the message it names back to that message; and every circle takes a step that ends a reported
    one, so that none is left without these steps. -/
theorem recursion_reported_exactly (hnames : (model.messages.map Message.name).Nodup) :
    (∃ order, order.Perm (List.range model.messages.length) ∧
      ∀ depth, model.messages.length ≤ depth →
        model.search depth = ⟨List.replicate model.messages.length .black, [], model.cycles⟩ ∧
        (model.search depth).Reflects model [] (model.walkWithin depth) ∧
        model.walkWithin depth = ⟨order, model.cycles⟩) ∧
    ((∀ owner path location, .recursiveNesting owner path location ∉ model.problems) ↔
      ∀ m, ¬Relation.TransGen model.StoresInline m m) ∧
    (∀ owner path location, .recursiveNesting owner path location ∈ model.problems →
      ∃ m between, owner = m.name ∧ location = m.location ∧
        path = (m :: between ++ [m]).map Message.name ∧
        (m :: between ++ [m]).IsChain model.StoresInline) ∧
    (∀ m between, (m :: between ++ [m]).IsChain model.StoresInline →
      ∃ front a b back, m :: between ++ [m] = front ++ a :: b :: back ∧ model.Closes a b) ∧
    ∀ m, ¬Relation.TransGen (fun a b => model.StoresInline a b ∧ ¬model.Closes a b) m m := by
  refine ⟨⟨model.fullWalk.done, model.fullWalk_done_perm, fun depth hdepth => ?_⟩,
    ⟨fun h m hm => ?_, fun h owner path location hreport => ?_⟩,
    fun _ _ _ => exists_circle_of_report hnames, fun _ _ => exists_closing_of_circle hnames,
    not_transGen_open hnames⟩
  · refine ⟨search_eq hdepth, model.search_reflects depth, ?_⟩
    rw [cycles_eq]
    exact walkWithin_eq hdepth
  · -- Nothing is reported, so no step ends a circle.
    refine not_transGen_open hnames m (Relation.TransGen.mono (fun a b hab => ⟨hab, ?_⟩) m m hm)
    rintro ⟨owner, front, location, hreport⟩
    exact h _ _ _ hreport
  · obtain ⟨m, between, -, -, -, hchain⟩ := exists_circle_of_report hnames hreport
    exact h m (transGen_of_isChain hchain)

/-- A place of no interest. -/
def somewhere : Location := ⟨"teams.msg", 1, 1⟩

/-- A team has five players. -/
def team : Message :=
  ⟨1, "Team", false, none, [⟨"players", .array (.named "Player") (.fixed 5), 0, somewhere⟩],
    somewhere⟩

/-- A player has a team, a badge and two twins. -/
def player : Message :=
  ⟨2, "Player", false, none, [⟨"team", .named "Team", 0, somewhere⟩,
    ⟨"badge", .named "Badge", 1, somewhere⟩,
    ⟨"twins", .array (.named "Player") (.fixed 2), 2, somewhere⟩], somewhere⟩

/-- A badge counts the teams that have worn it. -/
def badge : Message :=
  ⟨3, "Badge", false, none, [⟨"teams", .array (.named "Team") .counted, 0, somewhere⟩], somewhere⟩

/-- Teams and players store each other, and players themselves; badges store nothing inline. -/
def teams : Model := ⟨none, [], [team, player, badge]⟩

/-- Both circles are found, that of a team with its player and that of a player in itself. -/
theorem recursion_reported_exactly_teams :
    (teams.messages.map Message.name).Nodup ∧
    (∃ order, order.Perm [0, 1, 2] ∧
      ∀ depth, 3 ≤ depth →
        teams.search depth = ⟨[.black, .black, .black], [], [[0, 1, 0], [1, 1]]⟩ ∧
        (teams.search depth).Reflects teams [] (teams.walkWithin depth) ∧
        teams.walkWithin depth = ⟨order, [[0, 1, 0], [1, 1]]⟩) ∧
    (∃ m, Relation.TransGen teams.StoresInline m m) ∧
    (∃ m between, "Team" = m.name ∧ somewhere = m.location ∧
      ["Team", "Player", "Team"] = (m :: between ++ [m]).map Message.name ∧
      (m :: between ++ [m]).IsChain teams.StoresInline) ∧
    (∃ front a b back, [player, team, player] = front ++ a :: b :: back ∧ teams.Closes a b) ∧
    ∀ m, ¬Relation.TransGen (fun a b => teams.StoresInline a b ∧ ¬teams.Closes a b) m m := by
  have hnames : (teams.messages.map Message.name).Nodup := by decide
  obtain ⟨hwalk, hacyclic, hreports, hcircles, hopen⟩ := recursion_reported_exactly hnames
  have hreport :
      .recursiveNesting "Team" ["Team", "Player", "Team"] somewhere ∈ teams.problems := by
    decide +kernel
  have hteam : teams.StoresInline player team :=
    ⟨by decide, by decide, _, List.mem_cons_self, .named _⟩
  have hplayer : teams.StoresInline team player :=
    ⟨by decide, by decide, _, List.mem_cons_self, .fixed _ (.named _)⟩
  have hcircle : (player :: [team] ++ [player]).IsChain teams.StoresInline :=
    List.isChain_cons_cons.2 ⟨hteam, List.isChain_pair.2 hplayer⟩
  refine ⟨hnames, hwalk, ?_, hreports _ _ _ hreport, hcircles player [team] hcircle, hopen⟩
  by_contra hnone
  exact hacyclic.2 (not_exists.1 hnone) _ _ _ hreport

end Model

end WireSchema
