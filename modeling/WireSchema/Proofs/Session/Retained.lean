import Mathlib.Data.List.Forall2
import WireSchema.Proofs.Codegen.RegistryTable
import WireSchema.Proofs.Session.Split

/-!
# What generated code depends on

Of its sources, a session retains the definitions of the recognized namespace that are not drafts.
Their list, without places and namespaces, decides what is generated (`generate_of_retained`): the
same code, or the same problems up to their places. So comments and layout of the texts, their
labels, the way in which definitions are spread over them, drafts, and definitions of other
namespaces have no influence on it.

Whether code is generated is a matter of the checks alone (`generate_isOk_iff`).
-/

namespace WireSchema

open WireSchema.Source

/-! ## Retained definitions -/

/-- Is the definition a message without an identifier? -/
def Source.Definition.isDraft (d : Definition) : Bool :=
  match d.body with
  | .message none _ _ => true
  | _ => false

/-- The definitions of the recognized namespace that are not drafts, of all sources in their order,
    without places and namespaces. -/
def Session.retained (s : Session) : List Definition :=
  ((s.sources.flatMap (recognizedIn s.options.scope)).filter fun d => !d.isDraft).map
    Definition.erase

/-- A draft makes no enum. -/
theorem enum?_of_isDraft {d : Definition} (h : d.isDraft = true) (width : Option Width) :
    d.erase.enum? width = none := by
  obtain ⟨name, scope, position, body⟩ := d
  cases body with
  | enum => cases h
  | message => rfl

/-- A draft makes no message. -/
theorem message?_of_isDraft {d : Definition} (h : d.isDraft = true) : d.erase.message? = none := by
  obtain ⟨name, scope, position, body⟩ := d
  cases body with
  | enum => cases h
  | message id =>
    cases id with
    | none => rfl
    | some => cases h

/-- What is made of no draft can be made without the drafts. -/
theorem filterMap_drop_drafts {α : Type} {f : Definition → Option α}
    (hf : ∀ d : Definition, d.isDraft = true → f d.erase = none) (ds : List Definition) :
    (ds.map Definition.erase).filterMap f =
      ((ds.filter fun d => !d.isDraft).map Definition.erase).filterMap f := by
  rw [List.filterMap_map, List.filterMap_map, List.filterMap_filter]
  congr 1
  funext d
  cases hd : d.isDraft with
  | true => exact hf d hd
  | false => rfl

/-- Without places and namespaces, the model of a session is made of what it retains. -/
theorem Session.model_erase (s : Session) :
    s.model.erase =
      ⟨s.options.scope, s.retained.filterMap (Definition.enum? s.options.enumWidth),
        s.retained.filterMap Definition.message?⟩ := by
  rw [model, Model.extract_erase, retained,
    filterMap_drop_drafts fun d hd => enum?_of_isDraft hd s.options.enumWidth,
    filterMap_drop_drafts fun d hd => message?_of_isDraft hd]

/-! ## Generating code -/

/-- Code is generated exactly if the checks find no problem. -/
theorem generate_isOk_iff {s : Session} :
    (∃ code s', generate s = .ok code s') ↔ s.model.problems = [] := by
  refine ⟨fun ⟨code, s', hok⟩ => ?_, fun h => ?_⟩
  · by_contra h
    obtain ⟨t, herror⟩ := generate_of_problems h
    cases hok.symm.trans herror
  · obtain ⟨parts, hparts⟩ := Codegen.fragments_isOk ⟨s.model, h⟩ s.options.runtimePath
    obtain ⟨s', hs'⟩ := generate_of_fragments rfl hparts
    exact ⟨_, s', hs'⟩

/-- Two sessions with the same options that retain the same definitions generate the same code, or
    find problems that are one by one the same but for their places. -/
theorem generate_of_retained {s t : Session} (hoptions : s.options = t.options)
    (hretained : s.retained = t.retained) :
    (∃ code s' t', generate s = .ok code s' ∧ generate t = .ok code t') ∨
      ∃ problems problems' s' t', generate s = .error (.schema problems) s' ∧
        generate t = .error (.schema problems') t' ∧
        List.Forall₂ (fun p q => p.erase = q.erase) problems problems' := by
  have hmodel : s.model.erase = t.model.erase := by
    rw [Session.model_erase, Session.model_erase, hoptions, hretained]
  obtain hcode | ⟨problems, problems', s', t', hs', ht', herase⟩ :=
    generate_endsAlike (congrArg Options.runtimePath hoptions) hmodel
  · exact .inl hcode
  · refine .inr ⟨problems, problems', s', t', hs', ht', ?_⟩
    rwa [← List.forall₂_eq_eq_eq, List.forall₂_map_left_iff, List.forall₂_map_right_iff] at herase

/-- A session with given sources that recognizes the namespace of the game. -/
def gameSession (sources : List SourceFile) : Session :=
  { Session.start { scope := some "Game" } (.empty []) with sources := sources }

/-- An enum and a message that uses it. -/
def plainSources : List SourceFile :=
  [⟨"game.msg",
    [⟨"Team", some "Game", ⟨2, 8⟩, .enum none [⟨"Red", ⟨3, 5⟩, 1⟩]⟩,
     ⟨"Join", some "Game", ⟨6, 11⟩,
        .message (some 7) false [⟨"teams", ⟨7, 12⟩, .array (.name "Team") none⟩]⟩]⟩]

/-- The same definitions in two sources and in a namespace below, among a draft and a message of
    another namespace, which has the same identifier. -/
def spreadSources : List SourceFile :=
  [⟨"a.msg",
    [⟨"Leave", some "Game", ⟨1, 9⟩, .message none false []⟩,
     ⟨"Team", some "Game", ⟨40, 1⟩, .enum none [⟨"Red", ⟨40, 9⟩, 1⟩]⟩]⟩,
   ⟨"b.msg",
    [⟨"Probe", some "Gamepad", ⟨1, 9⟩, .message (some 7) true []⟩,
     ⟨"Join", some "Game.Lobby", ⟨2, 9⟩,
        .message (some 7) false [⟨"teams", ⟨2, 20⟩, .array (.name "Team") none⟩]⟩]⟩]

/-- Definitions in other files, places and namespaces make the same code if the same is retained. -/
theorem generate_of_retained_spreadSources :
    (gameSession plainSources).retained = (gameSession spreadSources).retained ∧
      ∃ code s' t', generate (gameSession plainSources) = .ok code s' ∧
        generate (gameSession spreadSources) = .ok code t' := by
  have hoptions : (gameSession plainSources).options = (gameSession spreadSources).options := rfl
  have hretained : (gameSession plainSources).retained = (gameSession spreadSources).retained := rfl
  refine ⟨hretained, ?_⟩
  obtain ⟨code, s', hok⟩ : ∃ code s', generate (gameSession plainSources) = .ok code s' :=
    generate_isOk_iff.2 (by decide +kernel)
  obtain hcode | ⟨_, _, _, _, herror, -, -⟩ := generate_of_retained hoptions hretained
  · exact hcode
  · cases hok.symm.trans herror

end WireSchema
