import WireSchema.Proofs.Codegen.Erasure
import WireSchema.Proofs.Schema.Extraction
import WireSchema.Proofs.Schema.WellFormed
import WireSchema.Proofs.Source.Concatenation
import WireSchema.Proofs.Wire.Run
import WireSchema.Session.Basic

/-!
# Schemas in several sources

A session generates code from the recognized definitions of its sources, in their order and whatever
their places (`generate_endsAlike`). So it makes no difference whether two texts are two sources or
stand behind one another in a single one.
-/

namespace WireSchema

open WireSchema.Source

/-! ## Adding sources -/

/-- A text that can be parsed is added behind the sources. -/
theorem addSource_of_parse {label text : String} {file : SourceFile}
    (h : parse text label = .ok file) (s : Session) :
    ∃ s', addSource label text s = .ok () s' ∧ s'.options = s.options ∧
      s'.sources = s.sources ++ [file] := by
  have hrun : addSource label text s = ((do
      if file.definitions.isEmpty then report (.noDefinitions label)
      else report (.parsed label file.definitions.length)
      modify fun s => { s with sources := s.sources ++ [file] }) : Action Unit) s := by
    rw [addSource, h]
  rw [hrun]
  split <;> exact ⟨_, rfl, rfl, rfl⟩

/-- Only a text that can be parsed is added. -/
theorem exists_parse_of_addSource {label text : String} {s s' : Session}
    (h : addSource label text s = .ok () s') :
    ∃ file, parse text label = .ok file ∧ s'.sources = s.sources ++ [file] := by
  cases hparse : parse text label with
  | error e =>
    rw [addSource, hparse] at h
    cases h
  | ok file =>
    obtain ⟨s'', hadd, -, hsources⟩ := addSource_of_parse hparse s
    cases h.symm.trans hadd
    exact ⟨file, rfl, hsources⟩

/-! ## Generating code -/

/-- The model that a session makes of its sources. -/
def Session.model (s : Session) : Model :=
  .extract s.sources s.options.scope s.options.enumWidth

/-- Making the model cannot fail. -/
theorem makeModel_run (s : Session) :
    ∃ s', makeModel s = .ok s.model s' ∧ s'.options = s.options :=
  ⟨_, rfl, rfl⟩

/-- Where the model is that of a schema, validating gives the schema. -/
theorem validate_of_model {s : Session} {schema : Schema} (h : schema.model = s.model) :
    ∃ s', validate s = .ok schema s' ∧ s'.options = s.options := by
  obtain ⟨s', hmake, hoptions⟩ := makeModel_run s
  refine ⟨s', ?_, hoptions⟩
  rw [validate, Run.bind_of_ok hmake, Model.validate_eq_ok_iff.2 h]
  rfl

/-- Where the model has problems, validating reports them all. -/
theorem validate_of_problems {s : Session} (h : s.model.problems ≠ []) :
    ∃ s', validate s = .error (.schema s.model.problems) s' := by
  obtain ⟨s', hmake, -⟩ := makeModel_run s
  refine ⟨s', ?_⟩
  rw [validate, Run.bind_of_ok hmake, Model.validate_eq_error_iff.2 ⟨rfl, h⟩]
  rfl

/-- The checks give a schema exactly if it is the model of the session. -/
theorem validate_eq_ok_iff {s : Session} {schema : Schema} :
    (∃ s', validate s = .ok schema s') ↔ schema.model = s.model := by
  refine ⟨fun ⟨s', hok⟩ => ?_, fun h => ?_⟩
  · obtain ⟨t, hmake, -⟩ := makeModel_run s
    rw [validate, Run.bind_of_ok hmake] at hok
    cases hvalidate : s.model.validate with
    | error problems =>
      rw [hvalidate] at hok
      cases hok
    | ok found =>
      rw [hvalidate] at hok
      cases hok
      exact Model.validate_eq_ok_iff.1 hvalidate
  · obtain ⟨s', hok, -⟩ := validate_of_model h
    exact ⟨s', hok⟩

/-- Where the model has problems, generating reports them all. -/
theorem generate_of_problems {s : Session} (h : s.model.problems ≠ []) :
    ∃ s', generate s = .error (.schema s.model.problems) s' := by
  obtain ⟨s', hvalidate⟩ := validate_of_problems h
  exact ⟨s', Run.bind_of_error hvalidate _⟩

theorem generate_of_ambiguity {s : Session} {schema : Schema} (h : schema.model = s.model)
    {p : Problem} (hp : Codegen.fragments schema s.options.runtimePath = .error p) :
    ∃ s', generate s = .error (.schema [p]) s' := by
  obtain ⟨s', hvalidate, hoptions⟩ := validate_of_model h
  refine ⟨s', ?_⟩
  have hget : (get : Action Session) s' = .ok s' s' := rfl
  rw [generate, Run.bind_of_ok hvalidate, Run.bind_of_ok hget, hoptions, hp]
  rfl

/-- Where the parts of the code can be made, generating gives the file of them. -/
theorem generate_of_fragments {s : Session} {schema : Schema} (h : schema.model = s.model)
    {parts : List String} (hparts : Codegen.fragments schema s.options.runtimePath = .ok parts) :
    ∃ s', generate s = .ok (Codegen.render schema parts) s' := by
  obtain ⟨s', hvalidate, hoptions⟩ := validate_of_model h
  have hget : (get : Action Session) s' = .ok s' s' := rfl
  rw [generate, Run.bind_of_ok hvalidate, Run.bind_of_ok hget, hoptions, hparts]
  exact ⟨_, rfl⟩

/-! ## Runs that end alike -/

/-- Two runs end with the same code, or with problems that are the same but for their places. -/
def EndsAlike (x y : EStateM.Result CompileError Session String) : Prop :=
  (∃ code s t, x = .ok code s ∧ y = .ok code t) ∨
    ∃ problems problems' s t, x = .error (.schema problems) s ∧ y = .error (.schema problems') t ∧
      problems.map Problem.erase = problems'.map Problem.erase

/-- Places and namespaces of definitions make no difference to what is generated. -/
theorem generate_endsAlike {s t : Session} (hpath : s.options.runtimePath = t.options.runtimePath)
    (hmodel : s.model.erase = t.model.erase) : EndsAlike (generate s) (generate t) := by
  have hproblems : s.model.problems.map Problem.erase = t.model.problems.map Problem.erase := by
    rw [← Model.problems_erase, ← Model.problems_erase, hmodel]
  by_cases hs : s.model.problems = []
  · -- Both models are schemas, and without places they are the same schema.
    have ht : t.model.problems = [] := by simpa [hs] using hproblems.symm
    have hschema : Schema.erase ⟨s.model, hs⟩ = Schema.erase ⟨t.model, ht⟩ := by
      simp only [Schema.erase, hmodel]
    have hfragments : Codegen.fragments ⟨s.model, hs⟩ s.options.runtimePath =
        Codegen.fragments ⟨t.model, ht⟩ t.options.runtimePath := by
      rw [← Codegen.fragments_erase, hschema, Codegen.fragments_erase, hpath]
    cases hrun : Codegen.fragments ⟨s.model, hs⟩ s.options.runtimePath with
    | error p =>
      -- The registry is refused. The problem names identifiers and messages, but no places.
      obtain ⟨s', hs'⟩ := generate_of_ambiguity rfl hrun
      obtain ⟨t', ht'⟩ := generate_of_ambiguity rfl (hfragments ▸ hrun)
      exact .inr ⟨_, _, s', t', hs', ht', rfl⟩
    | ok parts =>
      obtain ⟨s', hs'⟩ := generate_of_fragments rfl hrun
      obtain ⟨t', ht'⟩ := generate_of_fragments rfl (hfragments ▸ hrun)
      have hrender : Codegen.render ⟨s.model, hs⟩ parts = Codegen.render ⟨t.model, ht⟩ parts := by
        rw [← Codegen.render_erase, hschema, Codegen.render_erase]
      exact .inl ⟨_, s', t', hs', hrender ▸ ht'⟩
  · have ht : t.model.problems ≠ [] := by
      intro ht
      rw [ht, List.map_nil, List.map_eq_nil_iff] at hproblems
      exact hs hproblems
    obtain ⟨s', hs'⟩ := generate_of_problems hs
    obtain ⟨t', ht'⟩ := generate_of_problems ht
    exact .inr ⟨_, _, s', t', hs', ht', hproblems⟩

/-! ## Two sources or one -/

/-- Definitions that stand in one source and those that stand in two, the second ones elsewhere,
    make the same model but for places and namespaces. -/
theorem model_split {u v : Session} {sources : List SourceFile} {x y : SourceFile} {label : String}
    {f : Position → Position} (hoptions : u.options = v.options)
    (hu : u.sources = sources ++ [x] ++ [y])
    (hv : v.sources = sources ++ [⟨label, x.definitions ++ y.definitions.map (·.relocate f)⟩]) :
    u.model.erase = v.model.erase := by
  have hscope (d : Definition) : (d.relocate f).scope = d.scope := rfl
  rw [Session.model, Session.model, Model.extract_erase, Model.extract_erase, hoptions, hu, hv]
  simp [recognizedIn, List.filter_map, Function.comp_def, hscope, erase_relocate]

/-- A problem is of the same sort without its places. -/
theorem ctorIdx_erase (p : Problem) : p.erase.ctorIdx = p.ctorIdx := by
  cases p <;> rfl

/-- Splitting a schema over two sources does not change it. Two texts that are accepted each on its
    own are accepted as one text with a line break between them, which has the definitions of the
    first and, that many lines further down, those of the second; and from the two sources the same
    code is generated as from the one, or the same problems are found but for their places. -/
theorem generate_split {a b labelA labelB : String} {s s' t t' : Session}
    (ha : addSource labelA a s = .ok () s') (hb : addSource labelB b t = .ok () t') :
    ∃ fileA fileB, s'.sources = s.sources ++ [fileA] ∧ t'.sources = t.sources ++ [fileB] ∧
      (∀ label v, ∃ v', addSource label (a ++ "\n" ++ b) v = .ok () v' ∧
        v'.sources = v.sources ++ [⟨label, fileA.definitions ++
          fileB.definitions.map (·.relocate (Position.down (1 + a.toList.count '\n')))⟩]) ∧
      ∀ label (u v : Session), u.options = v.options → u.sources = v.sources →
        let two : Action String := do
          addSource labelA a
          addSource labelB b
          generate
        let one : Action String := do
          addSource label (a ++ "\n" ++ b)
          generate
        (∃ code u' v', two u = .ok code u' ∧ one v = .ok code v') ∨
          ∃ problems problems' u' v', two u = .error (.schema problems) u' ∧
            one v = .error (.schema problems') v' ∧
            problems.map Problem.erase = problems'.map Problem.erase ∧
            problems.map Problem.ctorIdx = problems'.map Problem.ctorIdx := by
  obtain ⟨fileA, hfileA, hsourcesA⟩ := exists_parse_of_addSource ha
  obtain ⟨fileB, hfileB, hsourcesB⟩ := exists_parse_of_addSource hb
  have hone (label : String) := addSource_of_parse (parse_append hfileA hfileB label)
  refine ⟨fileA, fileB, hsourcesA, hsourcesB, fun label v => ?_, ?_⟩
  · obtain ⟨v', hadd, -, hsources⟩ := hone label v
    exact ⟨v', hadd, hsources⟩
  · intro label u v hoptions hsources two one
    obtain ⟨u₁, hadd₁, hoptions₁, hsources₁⟩ := addSource_of_parse hfileA u
    obtain ⟨u₂, hadd₂, hoptions₂, hsources₂⟩ := addSource_of_parse hfileB u₁
    obtain ⟨v₁, hadd, hoptionsV, hsourcesV⟩ := hone label v
    have htwo : two u = generate u₂ := by
      rw [← Run.bind_of_ok hadd₂ fun _ => generate]
      exact Run.bind_of_ok hadd₁ _
    have hone : one v = generate v₁ := Run.bind_of_ok hadd _
    have heq : u₂.options = v₁.options := by rw [hoptions₂, hoptions₁, hoptions, hoptionsV]
    rw [hsources₁, hsources] at hsources₂
    rw [htwo, hone]
    -- Both sessions are about to generate code from the same definitions in different places.
    obtain hcode | ⟨problems, problems', u', v', hu', hv', herase⟩ :=
      generate_endsAlike (congrArg Options.runtimePath heq) (model_split heq hsources₂ hsourcesV)
    · exact .inl hcode
    · refine .inr ⟨problems, problems', u', v', hu', hv', herase, ?_⟩
      have hindex (ps : List Problem) :
          ps.map Problem.ctorIdx = (ps.map Problem.erase).map Problem.ctorIdx := by
        simp [Function.comp_def, ctorIdx_erase]
      rw [hindex, herase, ← hindex]

/-- A text that ends in a comment. -/
def teamText : String := "namespace Game \x7b\n  enum Team \x7b Red = 1; \x7d\n\x7d // The end"

/-- A text that uses a name of another one. -/
def joinText : String := "message Join = 7 \x7b Team team; \x7d"

/-- The names in a source and where they stand. -/
def placesIn (file : SourceFile) : List (String × Position) :=
  file.definitions.map fun d => (d.name, d.position)

/-- The names of two sources in one stand in their order, the latter ones further down. -/
theorem placesIn_append (label : String) (x y : SourceFile) (n : Nat) :
    placesIn ⟨label, x.definitions ++ y.definitions.map (·.relocate (Position.down n))⟩ =
      placesIn x ++ (placesIn y).map fun place => (place.1, place.2.down n) := by
  simp [placesIn, Definition.relocate]

/-- What can be seen of a result tells that there is one. -/
theorem exists_ok_of_view {ε α β : Type} {x : Except ε α} {view : α → β} {b : β}
    (h : x.toOption.map view = some b) : ∃ a, x = .ok a ∧ view a = b := by
  cases x with
  | error e => cases h
  | ok a => exact ⟨a, rfl, Option.some.inj h⟩

/-- What can be seen of a parsed text tells that it is parsed. -/
theorem exists_parse_of_view {α : Type} {view : SourceFile → α} {text label : String} {a : α}
    (h : (parse text label).map view = .ok a) :
    ∃ file, parse text label = .ok file ∧ view file = a := by
  cases hparse : parse text label with
  | error e =>
    rw [hparse] at h
    cases h
  | ok file =>
    rw [hparse] at h
    exact ⟨file, rfl, Except.ok.inj h⟩

/-- An enum and a message that uses it, in two texts and in one: the message stands further down
    there. -/
theorem generate_split_teamText :
    ∃ s' t' v', addSource "team" teamText (.start {} (.empty [])) = .ok () s' ∧
      addSource "join" joinText (.start {} (.empty [])) = .ok () t' ∧
      addSource "both" (teamText ++ "\n" ++ joinText) (.start {} (.empty [])) = .ok () v' ∧
      v'.sources.map placesIn = [[("Team", ⟨2, 8⟩), ("Join", ⟨4, 9⟩)]] := by
  have hteam : (parse teamText "team").map placesIn = .ok [("Team", ⟨2, 8⟩)] := by decide +kernel
  have hjoin : (parse joinText "join").map placesIn = .ok [("Join", ⟨1, 9⟩)] := by decide +kernel
  obtain ⟨fileA, hfileA, hplacesA⟩ := exists_parse_of_view hteam
  obtain ⟨fileB, hfileB, hplacesB⟩ := exists_parse_of_view hjoin
  obtain ⟨s', ha, -, hsourcesA⟩ := addSource_of_parse hfileA (.start {} (.empty []))
  obtain ⟨t', hb, -, hsourcesB⟩ := addSource_of_parse hfileB (.start {} (.empty []))
  obtain ⟨_, _, hA, hB, hone, -⟩ := generate_split ha hb
  cases hsourcesA.symm.trans hA
  cases hsourcesB.symm.trans hB
  obtain ⟨v', hv, hsources⟩ := hone "both" (.start {} (.empty []))
  refine ⟨s', t', v', ha, hb, hv, ?_⟩
  have hlines : 1 + teamText.toList.count '\n' = 3 := by decide +kernel
  rw [hsources, hlines]
  change [placesIn _] = _
  rw [placesIn_append, hplacesA, hplacesB]
  rfl

end WireSchema
