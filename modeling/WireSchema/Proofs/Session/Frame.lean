import WireSchema.Proofs.Wire.Run
import WireSchema.Session.Basic

/-!
# What sessions leave alone

Adding sources changes neither the files nor the options of a session, and making a model, a schema
or code changes nothing but the log; writing code also changes a file. All of this holds whether the
action succeeds or fails.
-/

namespace WireSchema

variable {α β γ : Type}

/-! ## Parts that are kept -/

/-- The session that an action leaves behind. -/
def Action.after (x : Action α) (s : Session) : Session :=
  match x s with
  | .ok _ s' => s'
  | .error _ s' => s'

/-- An action leaves a part of the session as it was, also when it fails. -/
def Action.Keeps (part : Session → γ) (x : Action α) : Prop :=
  ∀ s, part (x.after s) = part s

namespace Action

variable {part : Session → γ} {x : Action α}

theorem after_of_ok {s s' : Session} {a : α} (h : x s = .ok a s') : x.after s = s' := by
  rw [after, h]

theorem after_of_error {s s' : Session} {e : CompileError} (h : x s = .error e s') :
    x.after s = s' := by
  rw [after, h]

theorem Keeps.of_ok (hx : x.Keeps part) {s s' : Session} {a : α} (h : x s = .ok a s') :
    part s' = part s := by
  rw [← after_of_ok h, hx]

theorem Keeps.of_error (hx : x.Keeps part) {s s' : Session} {e : CompileError}
    (h : x s = .error e s') : part s' = part s := by
  rw [← after_of_error h, hx]

/-- What is read off a part that is kept is kept. -/
theorem Keeps.comp {δ : Type} (hx : x.Keeps part) (f : γ → δ) : x.Keeps fun s => f (part s) :=
  fun s => congrArg f (hx s)

theorem keeps_pure (a : α) : Keeps part (pure a : Action α) := fun _ => rfl

theorem keeps_throw (e : CompileError) : Keeps part (throw e : Action α) := fun _ => rfl

theorem keeps_get : Keeps part (get : Action Session) := fun _ => rfl

/-- Two actions in a row keep what each of them keeps. -/
theorem Keeps.bind (hx : x.Keeps part) {f : α → Action β} (hf : ∀ a, (f a).Keeps part) :
    (x >>= f).Keeps part := by
  intro s
  cases h : x s with
  | ok a s' => rw [after, Run.bind_of_ok h, ← hx.of_ok h, ← hf a s', after]
  | error e s' => rw [after_of_error (Run.bind_of_error h f), hx.of_error h]

end Action

open WireSchema.Action WireSchema.Source

/-! ## Adding sources -/

/-- What a session works with besides its sources. -/
def Session.surroundings (s : Session) : Options × FileTree :=
  (s.options, s.files)

/-- A report changes neither options nor files. -/
theorem report_keeps (e : Event) : (report e).Keeps Session.surroundings := fun _ => rfl

/-- Adding a text changes neither options nor files. -/
theorem addSource_keeps (label text : String) :
    (addSource label text).Keeps Session.surroundings := by
  rw [addSource]
  split
  · exact keeps_throw _
  · dsimp only
    split <;> exact fun _ => rfl

theorem addFile_keeps (path : String) : (addFile path).Keeps Session.surroundings := by
  refine .bind keeps_get fun s => ?_
  split
  · exact keeps_throw _
  · exact addSource_keeps _ _

theorem addFiles_keeps (paths : List String) : (addFiles paths).Keeps Session.surroundings := by
  induction paths with
  | nil => exact keeps_pure ()
  | cons path paths ih => exact .bind (addFile_keeps path) fun _ => ih

/-- Adding a path changes neither options nor files, also where a listing fails. -/
theorem addPath_keeps (path : String) : (addPath path).Keeps Session.surroundings := by
  refine .bind keeps_get fun s => ?_
  dsimp only
  split
  · split
    · exact keeps_throw _
    · split
      · exact keeps_throw _
      · split
        · exact .bind (report_keeps _) fun _ => addFiles_keeps _
        · exact addFiles_keeps _
  · exact addFile_keeps path

theorem addPaths_keeps (paths : List String) : (addPaths paths).Keeps Session.surroundings := by
  induction paths with
  | nil => exact keeps_pure ()
  | cons path paths ih => exact .bind (addPath_keeps path) fun _ => ih

/-! ## Making schemas and code -/

/-- All of a session but its log. -/
def Session.contents (s : Session) : Options × List SourceFile × FileTree :=
  (s.options, s.sources, s.files)

/-- Making the model changes neither options nor sources nor files. -/
theorem makeModel_keeps : makeModel.Keeps Session.contents := fun _ => rfl

theorem validate_keeps : validate.Keeps Session.contents := by
  refine .bind makeModel_keeps fun model => ?_
  split
  · exact keeps_pure _
  · exact keeps_throw _

theorem generate_keeps : generate.Keeps Session.contents := by
  refine .bind validate_keeps fun schema => .bind keeps_get fun s => ?_
  split
  · exact keeps_throw _
  · exact fun _ => rfl

/-- Where no code can be generated, writing it fails with the same error. -/
theorem writeCode_of_generate_error {s s' : Session} {e : CompileError} {path : String}
    (h : generate s = .error e s') : writeCode path s = .error e s' :=
  Run.bind_of_error h _

/-- Where code can be generated and written, the files are those after writing. -/
theorem writeCode_of_write {s s' : Session} {code path : String} {t : FileTree}
    (h : generate s = .ok code s') (hwrite : s'.files.write path code.toUTF8 = .ok t) :
    ∃ s'', writeCode path s = .ok () s'' ∧ s''.files = t := by
  have hget : (get : Action Session) s' = .ok s' s' := rfl
  rw [writeCode, Run.bind_of_ok h, Run.bind_of_ok hget, hwrite]
  exact ⟨_, rfl, rfl⟩

/-- Where the file cannot be written, the error names its path. -/
theorem writeCode_of_write_error {s s' : Session} {code path : String} {e : FileError}
    (h : generate s = .ok code s') (hwrite : s'.files.write path code.toUTF8 = .error e) :
    writeCode path s = .error (.output path e) s' := by
  have hget : (get : Action Session) s' = .ok s' s' := rfl
  rw [writeCode, Run.bind_of_ok h, Run.bind_of_ok hget, hwrite]
  rfl

/-- Writing code changes files and the log. -/
theorem writeCode_keeps (path : String) :
    (writeCode path).Keeps fun s => (s.options, s.sources) := by
  refine .bind (generate_keeps.comp fun c => (c.1, c.2.1)) fun code => .bind keeps_get fun s => ?_
  split
  · exact keeps_throw _
  · exact fun _ => rfl

end WireSchema
