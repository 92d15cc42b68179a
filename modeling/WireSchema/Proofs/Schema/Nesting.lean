import Mathlib.Data.List.Chain
import WireSchema.Proofs.Schema.Index
import WireSchema.Schema.Check.Nesting

/-!
# The walk over inline nesting

Positions of messages are the nodes of a graph, with a *step* from a message to each message that it
stores inline. `Model.search` searches this graph depth first, with marks beside its stack. The
marks tell the same as the stack and the finished positions together: gray are the positions on the
stack, and black are the finished ones (`Search.Reflects`). So the search is a walk along a path
that knows what is finished (`Model.walkFrom`), and finds the same circles (`cycles_eq`). Two things
are shown about the walk:

* every circle it reports is one (`isCircle_of_mem_cycles`);
* it finishes every position once, and each step out of a finished position leads to one that was
  finished before, or closes a reported circle (`Settled`, `fullWalk_spec`). So the steps that close
  reported circles are all that keeps the order of finishing from being a topological one.

So the positions can be ranked such that every step goes down or ends a reported circle
(`exists_rank`, and by the names of messages `exists_openRank`). With distinct names the walk
reports nothing exactly when no message stores itself inline (`cycles_eq_nil_iff`).

The walk carries its path, given last first. What a part of the walk keeps is `Walk.Inv`.
-/

namespace WireSchema.Model

variable {model : Model}

/-- The message at the position `u` stores the one at `v` inline. -/
def Step (model : Model) (u v : Nat) : Prop := v ∈ model.inlineAt u

/-- A walk along steps from a position back to it. -/
structure IsCircle (model : Model) (circle : List Nat) : Prop where
  chain : circle.IsChain model.Step
  closed : ∃ u between, circle = u :: between ++ [u]

/-- The last step of a walk is from `u` to `v`. -/
def EndsWith (circle : List Nat) (u v : Nat) : Prop :=
  ∃ front, circle = front ++ [u, v]

/-! ## Positions -/

/-- The position of a name is that of a message with the name. -/
theorem exists_message_of_indexOf? {name : String} {u : Nat} (h : model.indexOf? name = some u) :
    ∃ m, model.messages[u]? = some m ∧ m.name = name :=
  exists_of_lastIndexOf? h

/-- Every message has a name with a position. -/
theorem exists_indexOf?_of_mem {m : Message} (h : m ∈ model.messages) :
    ∃ u, model.indexOf? m.name = some u :=
  exists_lastIndexOf?_of_mem h

theorem step_iff {u v : Nat} : model.Step u v ↔
    ∃ m, model.messages[u]? = some m ∧ ∃ f ∈ m.fields, ∃ name,
      f.kind.inlineName? = some name ∧ model.indexOf? name = some v := by
  rw [Step, inlineAt]
  cases h : model.messages[u]? with
  | none => simp
  | some m =>
    simp only [List.mem_filterMap, Option.some.injEq]
    refine ⟨?_, ?_⟩
    · rintro ⟨name, ⟨f, hf, hname⟩, hv⟩
      exact ⟨m, rfl, f, hf, name, hname, hv⟩
    · rintro ⟨_, rfl, f, hf, name, hname, hv⟩
      exact ⟨name, ⟨f, hf, hname⟩, hv⟩

/-- Steps lead to positions of messages. -/
theorem Step.lt {u v : Nat} (h : model.Step u v) : v < model.messages.length := by
  obtain ⟨m, -, f, -, name, -, hv⟩ := step_iff.1 h
  obtain ⟨m', hm', -⟩ := exists_message_of_indexOf? hv
  exact (List.getElem?_eq_some_iff.1 hm').1

/-! ## Walks -/

/-- What a walk over inline nesting has found. -/
structure Walk where
  /-- The positions that are finished, last first. -/
  done : List Nat
  /-- The circles found so far. -/
  cycles : List (List Nat)

/-- The circle that a step to `next` closes on a path, which is given last first. -/
def closeCycle (path : List Nat) (next : Nat) : List Nat :=
  next :: (path.takeWhile (· != next)).reverse ++ [next]

/-- The part of a walk that takes one step, where `walkOn` walks on from a new position. A step back
    onto the path closes a circle, and a step to a finished position is not taken. -/
def visit (walkOn : Walk → Nat → Walk) (path : List Nat) (walk : Walk) (next : Nat) : Walk :=
  if path.contains next then ⟨walk.done, walk.cycles ++ [closeCycle path next]⟩
  else if walk.done.contains next then walk
  else walkOn walk next

/-- Walks on from `node` along a path. -/
def walkFrom (model : Model) : Nat → List Nat → Walk → Nat → Walk
  | 0, _, walk, _ => walk
  | depth + 1, path, walk, node =>
    let after := (model.inlineAt node).foldl
      (visit (walkFrom model depth (node :: path)) (node :: path)) walk
    ⟨node :: after.done, after.cycles⟩

/-- The walk over all positions that may go `depth` messages deep. -/
def walkWithin (model : Model) (depth : Nat) : Walk :=
  (List.range model.messages.length).foldl
    (fun walk u => if walk.done.contains u then walk else model.walkFrom depth [] walk u)
    ⟨[], []⟩

/-! ## Circles -/

/-- A path splits at a position it goes through. -/
theorem takeWhile_append_of_mem {path : List Nat} {v : Nat} (h : v ∈ path) :
    ∃ rest, path = path.takeWhile (· != v) ++ v :: rest := by
  induction path with
  | nil => cases h
  | cons u path ih =>
    by_cases huv : u = v
    · exact ⟨path, by simp [huv]⟩
    · obtain ⟨rest, hrest⟩ := ih ((List.mem_cons.1 h).resolve_left (Ne.symm huv))
      refine ⟨rest, ?_⟩
      rw [List.takeWhile_cons, if_pos (by simpa using huv), List.cons_append, ← hrest]

/-- A step back onto the path closes a circle with that step at its end. -/
theorem closeCycle_isCircle {path : List Nat} {u v : Nat}
    (hchain : (u :: path).IsChain fun a b => model.Step b a) (hv : v ∈ u :: path)
    (hstep : model.Step u v) :
    model.IsCircle (closeCycle (u :: path) v) ∧ EndsWith (closeCycle (u :: path) v) u v := by
  obtain ⟨rest, hrest⟩ := takeWhile_append_of_mem hv
  generalize hfront : (u :: path).takeWhile (· != v) = front at hrest
  have hcycle : closeCycle (u :: path) v = (front ++ [v]).reverse ++ [v] := by
    rw [closeCycle, hfront]
    simp
  -- The path from `v` on, read forwards, ends in `u`.
  have hlast : ∃ front', (front ++ [v]).reverse = front' ++ [u] := by
    cases front with
    | nil =>
      cases hrest
      exact ⟨[], rfl⟩
    | cons a front' =>
      cases hrest
      exact ⟨v :: front'.reverse, by simp⟩
  have hforth : (front ++ [v]).reverse.IsChain model.Step := by
    rw [List.isChain_reverse]
    rw [hrest, show front ++ v :: rest = (front ++ [v]) ++ rest by simp] at hchain
    exact hchain.left_of_append
  obtain ⟨front', hfront'⟩ := hlast
  rw [hcycle]
  refine ⟨⟨?_, v, front.reverse, by simp⟩, front', by rw [hfront']; simp⟩
  refine hforth.append (.singleton v) ?_
  rw [hfront']
  simpa using hstep

/-- A chain leads from its first element to its last. -/
theorem transGen_of_isChain {α : Type} {r : α → α → Prop} {u v : α} {between : List α}
    (h : (u :: between ++ [v]).IsChain r) : Relation.TransGen r u v := by
  induction between generalizing u with
  | nil => exact .single (List.isChain_pair.1 h)
  | cons w between ih =>
    obtain ⟨hstep, hrest⟩ := List.isChain_cons_cons.1 h
    exact Relation.TransGen.trans (.single hstep) (ih hrest)

/-! ## The walk -/

/-- Each step out of a finished position leads to one that was finished before, or closes one of
    the circles. Positions are given last finished first. -/
def Settled (model : Model) (cycles : List (List Nat)) : List Nat → Prop
  | [] => True
  | u :: done =>
    (∀ v, model.Step u v → v ∈ done ∨ ∃ c ∈ cycles, EndsWith c u v) ∧ Settled model cycles done

/-- Finished positions stay settled when more circles are known. -/
theorem Settled.mono {cycles cycles' : List (List Nat)} (hsub : cycles ⊆ cycles') {done : List Nat}
    (h : Settled model cycles done) : Settled model cycles' done := by
  induction done with
  | nil => trivial
  | cons u done ih =>
    refine ⟨fun v hv => (h.1 v hv).imp_right ?_, ih h.2⟩
    rintro ⟨c, hc, hend⟩
    exact ⟨c, hsub hc, hend⟩

/-- What a part of the walk keeps while it is on a path. -/
structure Walk.Inv (model : Model) (path : List Nat) (walk : Walk) : Prop where
  settled : Settled model walk.cycles walk.done
  circles : ∀ c ∈ walk.cycles, model.IsCircle c
  nodup : walk.done.Nodup
  lt : ∀ u ∈ walk.done, u < model.messages.length
  apart : ∀ u ∈ path, u ∉ walk.done

/-- What a part of the walk adds to. -/
structure Walk.Extends (walk walk' : Walk) : Prop where
  done : walk.done ⊆ walk'.done
  cycles : walk.cycles ⊆ walk'.cycles

/-- A walk that goes on twice has gone on. -/
theorem Walk.Extends.trans {walk walk' walk'' : Walk} (h : walk.Extends walk')
    (h' : walk'.Extends walk'') : walk.Extends walk'' :=
  ⟨fun _ hu => h'.done (h.done hu), fun _ hc => h'.cycles (h.cycles hc)⟩

/-- What is asked of walking on from `u` along `path`: it keeps the invariant, adds to the walk and
    finishes `u`. -/
def WalksOn (model : Model) (path : List Nat) (walkOn : Walk → Nat → Walk) (u : Nat) : Prop :=
  ∀ walk : Walk, walk.Inv model (u :: path) →
    (walkOn walk u).Inv model path ∧ walk.Extends (walkOn walk u) ∧ u ∈ (walkOn walk u).done

/-- A step is taken, found finished, or closes a circle. -/
theorem visit_spec {walkOn : Walk → Nat → Walk} {path : List Nat} {u v : Nat} {walk : Walk}
    (hchain : (u :: path).IsChain fun a b => model.Step b a) (hstep : model.Step u v)
    (hon : v ∉ u :: path → WalksOn model (u :: path) walkOn v) (hinv : walk.Inv model (u :: path)) :
    (visit walkOn (u :: path) walk v).Inv model (u :: path) ∧
      walk.Extends (visit walkOn (u :: path) walk v) ∧
      (v ∈ (visit walkOn (u :: path) walk v).done ∨
        ∃ c ∈ (visit walkOn (u :: path) walk v).cycles, EndsWith c u v) := by
  rw [visit]
  by_cases hpath : v ∈ u :: path
  · rw [if_pos (List.contains_iff_mem.2 hpath)]
    -- The step leads back onto the path: a circle is found, and nothing is finished.
    obtain ⟨hcircle, hend⟩ := closeCycle_isCircle hchain hpath hstep
    have hsub : walk.cycles ⊆ walk.cycles ++ [closeCycle (u :: path) v] := by simp
    refine ⟨⟨hinv.settled.mono hsub, fun c hc => ?_, hinv.nodup, hinv.lt, hinv.apart⟩,
      ⟨fun _ hd => hd, hsub⟩, .inr ⟨_, by simp, hend⟩⟩
    rcases List.mem_append.1 hc with hc | hc
    · exact hinv.circles c hc
    · rw [List.mem_singleton.1 hc]
      exact hcircle
  · rw [if_neg (by rwa [List.contains_iff_mem])]
    by_cases hdone : v ∈ walk.done
    · rw [if_pos (List.contains_iff_mem.2 hdone)]
      exact ⟨hinv, ⟨fun _ hd => hd, fun _ hc => hc⟩, .inl hdone⟩
    · rw [if_neg (by rwa [List.contains_iff_mem])]
      -- The position is new, so the walk goes on from there.
      have hinv' : walk.Inv model (v :: u :: path) :=
        { hinv with
          apart := by
            intro w hw
            rcases List.mem_cons.1 hw with rfl | hw
            · exact hdone
            · exact hinv.apart w hw }
      obtain ⟨h₁, h₂, h₃⟩ := hon hpath walk hinv'
      exact ⟨h₁, h₂, .inl h₃⟩

/-- All steps out of a position, one after the other. -/
theorem foldl_visit_spec {walkOn : Walk → Nat → Walk} {path : List Nat} {u : Nat}
    (hchain : (u :: path).IsChain fun a b => model.Step b a)
    (hon : ∀ v, model.Step u v → v ∉ u :: path → WalksOn model (u :: path) walkOn v)
    {steps : List Nat} (hsteps : ∀ v ∈ steps, model.Step u v) {walk : Walk}
    (hinv : walk.Inv model (u :: path)) :
    (steps.foldl (visit walkOn (u :: path)) walk).Inv model (u :: path) ∧
      walk.Extends (steps.foldl (visit walkOn (u :: path)) walk) ∧
      ∀ v ∈ steps, v ∈ (steps.foldl (visit walkOn (u :: path)) walk).done ∨
        ∃ c ∈ (steps.foldl (visit walkOn (u :: path)) walk).cycles, EndsWith c u v := by
  induction steps generalizing walk with
  | nil => exact ⟨hinv, ⟨fun _ hd => hd, fun _ hc => hc⟩, by simp⟩
  | cons v steps ih =>
    have hstep := hsteps v List.mem_cons_self
    obtain ⟨hinv₁, hext₁, hv⟩ := visit_spec hchain hstep (hon v hstep) hinv
    obtain ⟨hinv₂, hext₂, hrest⟩ := ih (fun w hw => hsteps w (List.mem_cons_of_mem _ hw)) hinv₁
    rw [List.foldl_cons]
    refine ⟨hinv₂, hext₁.trans hext₂, fun w hw => ?_⟩
    -- What was settled by the first step stays settled by the others.
    rcases List.mem_cons.1 hw with rfl | hw
    · refine hv.imp (fun h => hext₂.done h) ?_
      rintro ⟨c, hc, hend⟩
      exact ⟨c, hext₂.cycles hc, hend⟩
    · exact hrest w hw

/-- A path of distinct positions is never longer than there are messages. -/
theorem length_lt_of_nodup {path : List Nat} {u : Nat} (hnodup : (u :: path).Nodup)
    (hlt : ∀ w ∈ u :: path, w < model.messages.length) : path.length < model.messages.length := by
  have hle : (u :: path).length ≤ (List.range model.messages.length).length :=
    hnodup.length_le_of_subset fun w hw => List.mem_range.2 (hlt w hw)
  rwa [List.length_cons, List.length_range] at hle

/-- A path that grows by a step stays within the messages. -/
theorem Step.lt_of_mem_cons {path : List Nat} {u v : Nat} (hstep : model.Step u v)
    (hlt : ∀ w ∈ path, w < model.messages.length) :
    ∀ w ∈ v :: path, w < model.messages.length :=
  List.forall_mem_cons.2 ⟨hstep.lt, hlt⟩

/-- Walking on from a position that is not on the path. -/
theorem walkFrom_walksOn (depth : Nat) {path : List Nat} {u : Nat}
    (hdepth : model.messages.length ≤ path.length + depth) (hnodup : (u :: path).Nodup)
    (hlt : ∀ w ∈ u :: path, w < model.messages.length)
    (hchain : (u :: path).IsChain fun a b => model.Step b a) :
    WalksOn model path (model.walkFrom depth path) u := by
  induction depth generalizing path u with
  | zero =>
    -- The path is as long as there are messages and does not hold `u`: there is no such path.
    have := length_lt_of_nodup hnodup hlt
    omega
  | succ depth ih =>
    intro walk hinv
    have hon : ∀ v, model.Step u v → v ∉ u :: path →
        WalksOn model (u :: path) (model.walkFrom depth (u :: path)) v := by
      intro v hstep hv
      exact ih (by rw [List.length_cons]; omega) (List.nodup_cons.2 ⟨hv, hnodup⟩)
        (hstep.lt_of_mem_cons hlt) (List.isChain_cons_cons.2 ⟨hstep, hchain⟩)
    obtain ⟨hinv', hext, hsteps⟩ := foldl_visit_spec hchain hon (fun v hv => hv) hinv
    rw [walkFrom]
    -- `u` is finished after all its steps, which is what makes it settled.
    refine ⟨⟨⟨hsteps, hinv'.settled⟩, hinv'.circles, ?_, ?_, ?_⟩, ⟨?_, hext.cycles⟩, ?_⟩
    · exact List.nodup_cons.2 ⟨hinv'.apart u List.mem_cons_self, hinv'.nodup⟩
    · intro w hw
      rcases List.mem_cons.1 hw with rfl | hw
      · exact hlt w List.mem_cons_self
      · exact hinv'.lt w hw
    · intro w hw hmem
      rcases List.mem_cons.1 hmem with rfl | hmem
      · exact (List.nodup_cons.1 hnodup).1 hw
      · exact hinv'.apart w (List.mem_cons_of_mem _ hw) hmem
    · exact fun w hw => List.mem_cons_of_mem _ (hext.done hw)
    · exact List.mem_cons_self

/-- The walk over all positions. -/
def fullWalk (model : Model) : Walk :=
  model.walkWithin model.messages.length

/-- From start to start, the walk keeps its invariant, goes on, and finishes each start. -/
theorem foldl_walk_spec {starts : List Nat} (hlt : ∀ u ∈ starts, u < model.messages.length)
    {walk : Walk} (hinv : walk.Inv model []) :
    let after := starts.foldl
      (fun walk u =>
        if walk.done.contains u then walk else model.walkFrom model.messages.length [] walk u) walk
    after.Inv model [] ∧ walk.done ⊆ after.done ∧ ∀ u ∈ starts, u ∈ after.done := by
  induction starts generalizing walk with
  | nil => exact ⟨hinv, fun _ hd => hd, by simp⟩
  | cons u starts ih =>
    have hstarts : ∀ w ∈ starts, w < model.messages.length :=
      fun w hw => hlt w (List.mem_cons_of_mem _ hw)
    rw [List.foldl_cons]
    by_cases hdone : u ∈ walk.done
    · rw [if_pos (List.contains_iff_mem.2 hdone)]
      obtain ⟨hinv', hsub, hall⟩ := ih hstarts hinv
      exact ⟨hinv', hsub, List.forall_mem_cons.2 ⟨hsub hdone, hall⟩⟩
    · rw [if_neg (by rwa [List.contains_iff_mem])]
      -- A walk from a new start begins with an empty path.
      have hon : WalksOn model [] (model.walkFrom model.messages.length []) u :=
        walkFrom_walksOn _ (by simp) (by simp) (by simpa using hlt u List.mem_cons_self)
          (.singleton u)
      obtain ⟨hinv₁, hext, hu⟩ := hon walk { hinv with apart := by simpa using hdone }
      obtain ⟨hinv₂, hsub, hall⟩ := ih hstarts hinv₁
      exact ⟨hinv₂, fun w hw => hsub (hext.done hw), List.forall_mem_cons.2 ⟨hsub hu, hall⟩⟩

/-- The walk keeps its invariant and finishes every position. -/
theorem fullWalk_spec (model : Model) :
    model.fullWalk.Inv model [] ∧ ∀ u < model.messages.length, u ∈ model.fullWalk.done := by
  have hinit : Walk.Inv model [] ⟨[], []⟩ :=
    ⟨trivial, by simp, List.nodup_nil, by simp, by simp⟩
  obtain ⟨hinv, -, hall⟩ := foldl_walk_spec (fun u hu => List.mem_range.1 hu) hinit
  exact ⟨hinv, fun u hu => hall u (List.mem_range.2 hu)⟩

/-! ## Marks and stacks -/

/-- A search has its stack where a walk has its path, has found the same circles, and its marks tell
    what is on the stack and what is finished. -/
structure Search.Reflects (model : Model) (search : Search) (path : List Nat) (walk : Walk) :
    Prop where
  length_marks : search.marks.length = model.messages.length
  mark_eq : ∀ u < model.messages.length,
    search.mark u = if u ∈ path then .gray else if u ∈ walk.done then .black else .white
  stack_eq : search.stack = path
  cycles_eq : search.cycles = walk.cycles

/-- On a stack without repetitions, what is closed is the circle of the path: the position is found,
    and there is one place only to find it. -/
theorem closing_eq {path : List Nat} {v : Nat} (hnodup : path.Nodup) (h : v ∈ path) :
    closing path v = closeCycle path v := by
  obtain ⟨rest, hrest⟩ := takeWhile_append_of_mem h
  rw [closeCycle]
  generalize path.takeWhile (· != v) = front at hrest
  subst hrest
  have hv : v ∉ rest.reverse := by
    rw [List.mem_reverse]
    exact (List.nodup_cons.1 (List.nodup_append.1 hnodup).2.1).1
  have hreverse : (front ++ v :: rest).reverse = rest.reverse ++ v :: front.reverse := by simp
  have hindex : (rest.reverse ++ v :: front.reverse).idxOf? v = some rest.reverse.length := by
    rw [List.idxOf?, List.findIdx?_append, List.findIdx?_eq_none_iff.2 (by grind),
      List.findIdx?_cons]
    simp
  rw [closing, hreverse, hindex, Option.getD_some, List.drop_left]

section

variable {search : Search} {path : List Nat} {walk : Walk} {u : Nat}

/-- Setting one mark leaves those of the other positions. -/
theorem Search.Reflects.mark_set (h : search.Reflects model path walk)
    (hu : u < model.messages.length) (mark : Mark) (stack : List Nat) (cycles : List (List Nat))
    (w : Nat) :
    Search.mark ⟨search.marks.set u mark, stack, cycles⟩ w =
      if w = u then mark else search.mark w := by
  rw [Search.mark, Search.mark, List.getD_eq_getElem?_getD, List.getD_eq_getElem?_getD,
    List.getElem?_set, h.length_marks]
  by_cases hw : u = w
  · rw [if_pos hw, if_pos (hw ▸ hu), if_pos hw.symm, Option.getD_some]
  · rw [if_neg hw, if_neg (Ne.symm hw)]

/-- Entering a position puts it on the stack. -/
theorem Search.Reflects.enter (h : search.Reflects model path walk)
    (hu : u < model.messages.length) :
    Search.Reflects model ⟨search.marks.set u .gray, u :: search.stack, search.cycles⟩ (u :: path)
      walk := by
  refine ⟨by rw [List.length_set, h.length_marks], fun w hw => ?_,
    congrArg (u :: ·) h.stack_eq, h.cycles_eq⟩
  rw [h.mark_set hu, h.mark_eq w hw]
  by_cases hwu : w = u
  · simp [hwu]
  · simp [hwu]

/-- Leaving a position takes it from the stack and finishes it. -/
theorem Search.Reflects.leave (h : search.Reflects model (u :: path) walk)
    (hu : u < model.messages.length) (hpath : u ∉ path) :
    Search.Reflects model ⟨search.marks.set u .black, search.stack.tail, search.cycles⟩ path
      ⟨u :: walk.done, walk.cycles⟩ := by
  refine ⟨by rw [List.length_set, h.length_marks], fun w hw => ?_, by rw [h.stack_eq]; rfl,
    h.cycles_eq⟩
  rw [h.mark_set hu, h.mark_eq w hw]
  by_cases hwu : w = u
  · simp [hwu, hpath]
  · simp [hwu]

/-- A step of the search is one of the walk. -/
theorem Search.Reflects.step {searchOn : Search → Nat → Search} {walkOn : Walk → Nat → Walk}
    (h : search.Reflects model path walk) (hnodup : path.Nodup) (hu : u < model.messages.length)
    (hon : u ∉ path → (searchOn search u).Reflects model path (walkOn walk u)) :
    (Search.step searchOn search u).Reflects model path (visit walkOn path walk u) := by
  rw [Search.step, h.mark_eq u hu, visit]
  by_cases hpath : u ∈ path
  · rw [if_pos hpath, if_pos (List.contains_iff_mem.2 hpath)]
    refine ⟨h.length_marks, h.mark_eq, h.stack_eq, ?_⟩
    rw [h.cycles_eq, h.stack_eq, closing_eq hnodup hpath]
  · rw [if_neg hpath, if_neg (mt List.contains_iff_mem.1 hpath)]
    by_cases hdone : u ∈ walk.done
    · rw [if_pos hdone, if_pos (List.contains_iff_mem.2 hdone)]
      exact h
    · rw [if_neg hdone, if_neg (mt List.contains_iff_mem.1 hdone)]
      exact hon hpath

theorem foldl_step_reflects {searchOn : Search → Nat → Search} {walkOn : Walk → Nat → Walk}
    (hnodup : path.Nodup) {steps : List Nat} (hlt : ∀ v ∈ steps, v < model.messages.length)
    (hon : ∀ search walk, ∀ v ∈ steps, v ∉ path → search.Reflects model path walk →
      (searchOn search v).Reflects model path (walkOn walk v))
    (h : search.Reflects model path walk) :
    (steps.foldl (Search.step searchOn) search).Reflects model path
      (steps.foldl (visit walkOn path) walk) := by
  induction steps generalizing search walk with
  | nil => exact h
  | cons v steps ih =>
    have hv : v ∈ v :: steps := List.mem_cons_self
    refine ih (fun w hw => hlt w (List.mem_cons_of_mem _ hw))
      (fun search walk w hw => hon search walk w (List.mem_cons_of_mem _ hw)) ?_
    exact h.step hnodup (hlt v hv) fun hpath => hon search walk v hv hpath h

/-- Searching on from a position is walking on from there. -/
theorem searchFrom_reflects (depth : Nat) (hnodup : (u :: path).Nodup)
    (hu : u < model.messages.length) (h : search.Reflects model path walk) :
    (model.searchFrom depth search u).Reflects model path (model.walkFrom depth path walk u) := by
  induction depth generalizing search path walk u with
  | zero => exact h
  | succ depth ih =>
    have hlt : ∀ v ∈ model.inlineAt u, v < model.messages.length := fun v hv => Step.lt hv
    have hon : ∀ search walk, ∀ v ∈ model.inlineAt u, v ∉ u :: path →
        search.Reflects model (u :: path) walk →
        (model.searchFrom depth search v).Reflects model (u :: path)
          (model.walkFrom depth (u :: path) walk v) :=
      fun search walk v hv hpath => ih (List.nodup_cons.2 ⟨hpath, hnodup⟩) (hlt v hv)
    have hsteps := foldl_step_reflects hnodup hlt hon (h.enter hu)
    exact hsteps.leave hu (List.nodup_cons.1 hnodup).1

/-- The search over all positions is the walk over all positions. -/
theorem search_reflects (model : Model) (depth : Nat) :
    (model.search depth).Reflects model [] (model.walkWithin depth) := by
  have hstart : Search.Reflects model ⟨List.replicate model.messages.length .white, [], []⟩ []
      ⟨[], []⟩ := by
    refine ⟨List.length_replicate, fun u hu => ?_, rfl, rfl⟩
    simp [Search.mark, hu]
  rw [search, walkWithin]
  -- Both go over the positions together; a position is white exactly if it is not finished.
  have hrange : ∀ u ∈ List.range model.messages.length, u < model.messages.length :=
    fun u hu => List.mem_range.1 hu
  generalize List.range model.messages.length = starts at hrange ⊢
  generalize (⟨[], []⟩ : Walk) = walk at hstart ⊢
  generalize (⟨List.replicate model.messages.length .white, [], []⟩ : Search) = search at hstart ⊢
  induction starts generalizing search walk with
  | nil => exact hstart
  | cons u starts ih =>
    rw [List.foldl_cons, List.foldl_cons]
    refine ih (fun w hw => hrange w (List.mem_cons_of_mem _ hw)) ?_ ?_ ?_
    have hu := hrange u List.mem_cons_self
    rw [hstart.mark_eq u hu]
    by_cases hdone : u ∈ walk.done
    · simpa [hdone] using hstart
    · simpa [hdone] using searchFrom_reflects depth (by simp) hu hstart

end

/-- The search with marks and a stack finds the cycles of the full walk. -/
theorem cycles_eq (model : Model) : model.cycles = model.fullWalk.cycles :=
  (model.search_reflects model.messages.length).cycles_eq

/-- Every cycle that is found is a circle of nested messages. -/
theorem isCircle_of_mem_cycles {c : List Nat} (h : c ∈ model.cycles) : model.IsCircle c :=
  model.fullWalk_spec.1.circles c (model.cycles_eq ▸ h)

/-! ## Ranks -/

/-- What was finished first is settled without what was finished later. -/
theorem Settled.right_of_append {cycles : List (List Nat)} {front back : List Nat}
    (h : Settled model cycles (front ++ back)) : Settled model cycles back := by
  induction front with
  | nil => exact h
  | cons u front ih => exact ih h.2

/-- Finished positions are ranked by the order of finishing: a step goes down or ends a circle. -/
theorem Settled.idxOf_lt {cycles : List (List Nat)} {done : List Nat}
    (h : Settled model cycles done) (hnodup : done.Nodup) {u v : Nat} (hu : u ∈ done)
    (hstep : model.Step u v) :
    done.reverse.idxOf v < done.reverse.idxOf u ∨ ∃ c ∈ cycles, EndsWith c u v := by
  obtain ⟨front, back, rfl⟩ := List.append_of_mem hu
  refine (h.right_of_append.1 v hstep).imp_left fun hv => ?_
  have hu' : u ∉ back := (List.nodup_cons.1 (List.nodup_append.1 hnodup).2.1).1
  have hback := List.idxOf_lt_length_of_mem (List.mem_reverse.2 hv)
  rw [List.length_reverse] at hback
  rw [List.reverse_append, List.reverse_cons, List.append_assoc, List.idxOf_append,
    if_pos (List.mem_reverse.2 hv), List.idxOf_append, if_neg (by simpa using hu')]
  simpa using hback

/-- All positions can be ranked such that steps go down, but for those that end reported circles. -/
theorem exists_rank (model : Model) :
    ∃ rank : Nat → Nat, (∀ u < model.messages.length, rank u < model.messages.length) ∧
      ∀ u v, model.Step u v → rank v < rank u ∨ ∃ c ∈ model.cycles, EndsWith c u v := by
  obtain ⟨hinv, hall⟩ := model.fullWalk_spec
  refine ⟨fun u => model.fullWalk.done.reverse.idxOf u, fun u hu => ?_, fun u v hstep => ?_⟩
  · have hlt := List.idxOf_lt_length_of_mem (List.mem_reverse.2 (hall u hu))
    have hle : _ ≤ (List.range model.messages.length).length :=
      hinv.nodup.length_le_of_subset fun w hw => List.mem_range.2 (hinv.lt w hw)
    rw [List.length_reverse] at hlt
    rw [List.length_range] at hle
    exact Nat.lt_of_lt_of_le hlt hle
  · obtain ⟨m, hm, -⟩ := step_iff.1 hstep
    rw [cycles_eq]
    exact hinv.settled.idxOf_lt hinv.nodup (hall u (List.getElem?_eq_some_iff.1 hm).1) hstep

end WireSchema.Model

namespace WireSchema

/-! ## Messages -/

/-- A value of the kind has values of the named type in it, one or a fixed number of them. -/
inductive Kind.Stores : Kind → String → Prop
  | named (name : String) : Stores (.named name) name
  | fixed {element : Kind} {name : String} (n : Nat) (h : Stores element name) :
      Stores (.array element (.fixed n)) name

/-- A kind has an inline name exactly if it stores the type of that name. -/
theorem Kind.inlineName?_eq_some_iff {kind : Kind} {name : String} :
    kind.inlineName? = some name ↔ kind.Stores name := by
  refine ⟨fun h => ?_, fun h => ?_⟩
  · fun_induction Kind.inlineName? kind with
    | case1 name' =>
      cases h
      exact .named name
    | case2 element n ih => exact .fixed n (ih h)
    | case3 => cases h
  · induction h with
    | named name => rfl
    | fixed n h ih => exact ih

namespace Model

variable {model : Model}

/-- A message stores another one inline, directly or through arrays of fixed length only. -/
def StoresInline (model : Model) (a b : Message) : Prop :=
  a ∈ model.messages ∧ b ∈ model.messages ∧ ∃ f ∈ a.fields, f.kind.Stores b.name

/-- With distinct names, the position of a message is that of its name. -/
theorem indexOf?_of_getElem? (hnames : (model.messages.map Message.name).Nodup) {u : Nat}
    {m : Message} (h : model.messages[u]? = some m) : model.indexOf? m.name = some u := by
  obtain ⟨v, hv⟩ := exists_indexOf?_of_mem (List.mem_of_getElem? h)
  obtain ⟨m', hm', hname⟩ := exists_message_of_indexOf? hv
  have hu : (model.messages.map Message.name)[u]? = some m.name := by simp [h]
  have hv' : (model.messages.map Message.name)[v]? = some m.name := by simp [hm', hname]
  rw [hv, (List.getElem?_inj (List.getElem?_eq_some_iff.1 hv').1 hnames).1 (hv'.trans hu.symm)]

/-- With distinct names, steps between positions are inline storage of messages. -/
theorem step_iff_storesInline (hnames : (model.messages.map Message.name).Nodup) {u v : Nat} :
    model.Step u v ↔ ∃ a b, model.messages[u]? = some a ∧ model.messages[v]? = some b ∧
      model.StoresInline a b := by
  rw [step_iff]
  refine ⟨?_, ?_⟩
  · rintro ⟨a, ha, f, hf, name, hname, hv⟩
    obtain ⟨b, hb, rfl⟩ := exists_message_of_indexOf? hv
    exact ⟨a, b, ha, hb, List.mem_of_getElem? ha, List.mem_of_getElem? hb, f, hf,
      Kind.inlineName?_eq_some_iff.1 hname⟩
  · rintro ⟨a, b, ha, hb, -, -, f, hf, hstores⟩
    exact ⟨a, ha, f, hf, b.name, Kind.inlineName?_eq_some_iff.2 hstores,
      indexOf?_of_getElem? hnames hb⟩

/-- A way through positions is one through the messages there. -/
theorem transGen_storesInline_of_step (hnames : (model.messages.map Message.name).Nodup) {u v : Nat}
    (h : Relation.TransGen model.Step u v) : ∃ a b, model.messages[u]? = some a ∧
      model.messages[v]? = some b ∧ Relation.TransGen model.StoresInline a b := by
  induction h with
  | single hstep =>
    obtain ⟨a, b, ha, hb, hab⟩ := (step_iff_storesInline hnames).1 hstep
    exact ⟨a, b, ha, hb, .single hab⟩
  | tail _ hstep ih =>
    obtain ⟨a, b, ha, hb, hab⟩ := ih
    obtain ⟨b', c, hb', hc, hbc⟩ := (step_iff_storesInline hnames).1 hstep
    cases hb.symm.trans hb'
    exact ⟨a, c, ha, hc, .tail hab hbc⟩

/-- The walk closes a circle by the step from one message to another. -/
def EndsCircle (model : Model) (a b : Message) : Prop :=
  ∃ c ∈ model.cycles, ∃ u v, EndsWith c u v ∧ model.messages[u]? = some a ∧
    model.messages[v]? = some b

/-- The messages can be ranked, by their names, such that each message ranks above all that it
    stores inline, but for what ends a circle. -/
theorem exists_openRank (hnames : (model.messages.map Message.name).Nodup) :
    ∃ rank : String → Nat, (∀ m ∈ model.messages, rank m.name < model.messages.length) ∧
      ∀ a b, model.StoresInline a b → rank b.name < rank a.name ∨ model.EndsCircle a b := by
  obtain ⟨rank, hlt, hdown⟩ := model.exists_rank
  have hrank : ∀ {u : Nat} {m : Message}, model.messages[u]? = some m →
      ((model.indexOf? m.name).map rank).getD 0 = rank u := by
    intro u m hm
    rw [indexOf?_of_getElem? hnames hm]
    rfl
  refine ⟨fun name => ((model.indexOf? name).map rank).getD 0, fun m hm => ?_, fun a b hab => ?_⟩
  · obtain ⟨u, hu⟩ := List.getElem?_of_mem hm
    exact (hrank hu).trans_lt (hlt u (List.getElem?_eq_some_iff.1 hu).1)
  · obtain ⟨u, hu⟩ := List.getElem?_of_mem hab.1
    obtain ⟨v, hv⟩ := List.getElem?_of_mem hab.2.1
    have hstep := (step_iff_storesInline hnames).2 ⟨a, b, hu, hv, hab⟩
    refine (hdown u v hstep).imp (fun hrel => ?_) ?_
    · exact (hrank hv).trans_lt (Nat.lt_of_lt_of_eq hrel (hrank hu).symm)
    · rintro ⟨c, hc, hend⟩
      exact ⟨c, hc, u, v, hend, hu, hv⟩

/-- Without circles each message ranks above all that it stores inline. -/
theorem exists_nameRank (hnames : (model.messages.map Message.name).Nodup)
    (h : model.cycles = []) : ∃ rank : String → Nat,
      (∀ m ∈ model.messages, rank m.name < model.messages.length) ∧
      ∀ a b, model.StoresInline a b → rank b.name < rank a.name := by
  obtain ⟨rank, hlt, hdown⟩ := exists_openRank hnames
  refine ⟨rank, hlt, fun a b hab => (hdown a b hab).resolve_right ?_⟩
  rintro ⟨c, hc, -⟩
  rw [h] at hc
  cases hc

/-- What goes down in rank never comes back. -/
theorem not_transGen_self {α : Type} {r : α → α → Prop} {rank : α → Nat}
    (hdown : ∀ a b, r a b → rank b < rank a) (a : α) : ¬Relation.TransGen r a a := by
  have hlt : ∀ {b}, Relation.TransGen r a b → rank b < rank a := by
    intro b hab
    induction hab with
    | single hstep => exact hdown _ _ hstep
    | tail _ hstep ih => exact Nat.lt_trans (hdown _ _ hstep) ih
  exact fun ha => Nat.lt_irrefl _ (hlt ha)

/-- With distinct names, the walk closes no circle exactly when no message stores itself. -/
theorem cycles_eq_nil_iff (hnames : (model.messages.map Message.name).Nodup) :
    model.cycles = [] ↔ ∀ m, ¬Relation.TransGen model.StoresInline m m := by
  refine ⟨fun h m hm => ?_, fun h => ?_⟩
  · obtain ⟨rank, -, hdown⟩ := exists_nameRank hnames h
    exact not_transGen_self hdown m hm
  · refine List.eq_nil_iff_forall_not_mem.2 fun c hc => ?_
    obtain ⟨hchain, u, between, rfl⟩ := isCircle_of_mem_cycles hc
    obtain ⟨a, b, ha, hb, hab⟩ := transGen_storesInline_of_step hnames (transGen_of_isChain hchain)
    cases ha.symm.trans hb
    exact h a hab

/-- Every circle is a problem. -/
theorem cycleProblem?_isSome {c : List Nat} (h : c ∈ model.cycles) :
    (model.cycleProblem? c).isSome := by
  obtain ⟨hchain, u, between, rfl⟩ := isCircle_of_mem_cycles h
  have hstep : ∃ v, model.Step u v := by
    cases between with
    | nil => exact ⟨u, List.isChain_pair.1 hchain⟩
    | cons v between => exact ⟨v, (List.isChain_cons_cons.1 hchain).1⟩
  obtain ⟨v, hv⟩ := hstep
  obtain ⟨m, hm, -⟩ := step_iff.1 hv
  have hlast : (u :: between ++ [u]).getLast? = some u := List.getLast?_concat
  rw [cycleProblem?, hlast]
  simp [hm]

end Model

end WireSchema
