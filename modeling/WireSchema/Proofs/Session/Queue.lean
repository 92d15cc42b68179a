import WireSchema.Proofs.Session.Relisting
import WireSchema.Proofs.Session.Split

/-!
# The sources of a session

A session is used by calls (`Call`), some of which fail. Calls that add sources try some texts in
order: a given text, a file, or the schema files of a directory in the order of their paths. They
take those in front of the first failure (`Takes`) and report it; a directory that cannot be listed
to its end counts as a single failure, and other calls take nothing. So after any run the sources
are the texts that were parsed, in the order in which they were added (`Session.Queues`).

Directories are listed in no particular order. A session does not notice: in any other order of the
same entries, every run goes the same way (`Session.Relists`). The one thing that may differ is
which of several unreadable entries of a directory is reported (`FileTree.ReportsAlike`).
-/

namespace WireSchema

open WireSchema.Action WireSchema.Source

/-! ## Sources one by one -/

/-- What becomes of a text. -/
def loadText (label text : String) : Except CompileError SourceFile :=
  (parse text label).mapError (.parse label)

/-- What becomes of a file. -/
def FileTree.load (t : FileTree) (path : String) : Except CompileError SourceFile := do
  let text ← (t.readText path).mapError (.io path)
  loadText path text

/-- Of sources that are tried one after the other, those in front of the first failure are taken. -/
inductive Takes :
    List (Except CompileError SourceFile) → Option CompileError → List SourceFile → Prop
  | all (files : List SourceFile) : Takes (files.map .ok) none files
  | stopped (files : List SourceFile) (e : CompileError)
      (rest : List (Except CompileError SourceFile)) :
      Takes (files.map .ok ++ .error e :: rest) (some e) files

section

variable {tried : List (Except CompileError SourceFile)} {failure : Option CompileError}
  {files : List SourceFile} {file : SourceFile} {e : CompileError}

theorem takes_nil_iff : Takes [] failure files ↔ failure = none ∧ files = [] := by
  refine ⟨fun h => ?_, fun ⟨hfailure, hfiles⟩ => hfailure ▸ hfiles ▸ .all []⟩
  generalize htried : [] = tried at h
  cases h with
  | all => exact ⟨rfl, List.map_eq_nil_iff.1 htried.symm⟩
  | stopped => simp at htried

/-- A source that is there is taken, and then the others are tried. -/
theorem takes_cons_ok_iff : Takes (.ok file :: tried) failure files ↔
    ∃ more, files = file :: more ∧ Takes tried failure more := by
  refine ⟨fun h => ?_, ?_⟩
  · generalize htried : .ok file :: tried = all at h
    cases h with
    | all =>
      cases files with
      | nil => cases htried
      | cons _ more =>
        cases htried
        exact ⟨more, rfl, .all more⟩
    | stopped _ e rest =>
      cases files with
      | nil => cases htried
      | cons _ more =>
        cases htried
        exact ⟨more, rfl, .stopped more e rest⟩
  · rintro ⟨more, rfl, h⟩
    cases h with
    | all => exact .all (file :: more)
    | stopped _ e rest => exact .stopped (file :: more) e rest

/-- Nothing is taken from the first failure on. -/
theorem takes_cons_error_iff :
    Takes (.error e :: tried) failure files ↔ failure = some e ∧ files = [] := by
  refine ⟨fun h => ?_, ?_⟩
  · generalize htried : .error e :: tried = all at h
    cases h with
    | all => cases files <;> cases htried
    | stopped =>
      cases files with
      | nil =>
        cases htried
        exact ⟨rfl, rfl⟩
      | cons => cases htried
  · rintro ⟨rfl, rfl⟩
    exact .stopped [] e tried

end

/-! ## Actions that add sources -/

/-- In a session, an action tries sources. It adds those that are taken and fails as they do; when
    the first one fails already, it changes nothing at all. -/
structure Action.Tries (x : Action Unit) (s : Session)
    (tried : List (Except CompileError SourceFile)) : Prop where
  adds : ∀ failure files, Takes tried failure files →
    x.error? s = failure ∧ (x.after s).sources = s.sources ++ files
  unchanged : ∀ e rest, tried = .error e :: rest → x s = .error e s

namespace Action

variable {α : Type} {x y : Action Unit} {s s' : Session} {file : SourceFile} {e : CompileError}
  {attempt : Except CompileError SourceFile} {tried : List (Except CompileError SourceFile)}

theorem error?_of_ok {x : Action α} {a : α} (h : x s = .ok a s') : x.error? s = none := by
  rw [error?, h]

theorem error?_of_error {x : Action α} (h : x s = .error e s') : x.error? s = some e := by
  rw [error?, h]

/-- An action without an error succeeds. -/
theorem exists_ok_of_error? (h : x.error? s = none) : ∃ s', x s = .ok () s' := by
  cases hx : x s with
  | ok _ s' => exact ⟨s', rfl⟩
  | error e s' => cases (error?_of_error hx).symm.trans h

theorem tries_nil (h : x s = .ok () s') (hsources : s'.sources = s.sources) : x.Tries s [] := by
  refine ⟨fun failure files htakes => ?_, fun e rest hnil => by cases hnil⟩
  obtain ⟨rfl, rfl⟩ := takes_nil_iff.1 htakes
  rw [after_of_ok h, hsources, List.append_nil]
  exact ⟨error?_of_ok h, rfl⟩

/-- An action that adds one source has tried it. -/
theorem tries_of_ok (h : x s = .ok () s') (hsources : s'.sources = s.sources ++ [file]) :
    x.Tries s [.ok file] := by
  refine ⟨fun failure files htakes => ?_, fun e rest hcons => by cases hcons⟩
  obtain ⟨more, rfl, hmore⟩ := takes_cons_ok_iff.1 htakes
  obtain ⟨rfl, rfl⟩ := takes_nil_iff.1 hmore
  rw [after_of_ok h]
  exact ⟨error?_of_ok h, hsources⟩

/-- An action that fails and leaves the session as it was has tried something that fails first. -/
theorem tries_of_error (h : x s = .error e s) : x.Tries s (.error e :: tried) := by
  refine ⟨fun failure files htakes => ?_, fun e' rest hcons => ?_⟩
  · obtain ⟨rfl, rfl⟩ := takes_cons_error_iff.1 htakes
    rw [after_of_error h, List.append_nil]
    exact ⟨error?_of_error h, rfl⟩
  · cases hcons
    exact h

/-- What an action tries in a session depends on what it does there and not on how. -/
theorem Tries.congr (h : x s = y s) (hy : y.Tries s tried) : x.Tries s tried := by
  refine ⟨?_, ?_⟩
  · rw [error?, after, h]
    exact hy.adds
  · rw [h]
    exact hy.unchanged

/-- A source is tried, and then further ones if it was taken. -/
theorem Tries.bind (hx : x.Tries s [attempt]) (hy : ∀ s', x s = .ok () s' → y.Tries s' tried) :
    (x >>= fun _ => y).Tries s (attempt :: tried) := by
  cases attempt with
  | error e => exact tries_of_error (Run.bind_of_error (hx.unchanged e [] rfl) _)
  | ok file =>
    -- The file is in the session that `y` starts from, so its sources come behind the file.
    obtain ⟨hok, hsources⟩ := hx.adds none [file] (.all [file])
    obtain ⟨s', hs'⟩ := exists_ok_of_error? hok
    rw [after_of_ok hs'] at hsources
    refine ⟨fun failure files htakes => ?_, fun e rest hcons => by cases hcons⟩
    obtain ⟨more, rfl, hmore⟩ := takes_cons_ok_iff.1 htakes
    rw [error?, after, Run.bind_of_ok hs', List.append_cons, ← hsources]
    exact (hy s' hs').adds failure more hmore

end Action

/-- Adding a text tries the text. -/
theorem tries_addSource (label text : String) (s : Session) :
    (addSource label text).Tries s [loadText label text] := by
  rw [loadText]
  cases hparse : parse text label with
  | error e =>
    refine tries_of_error ?_
    rw [addSource, hparse]
    rfl
  | ok file =>
    obtain ⟨s', hadd, -, hsources⟩ := addSource_of_parse hparse s
    exact tries_of_ok hadd hsources

/-- Adding a file tries what the file holds. -/
theorem tries_addFile (path : String) (s : Session) :
    (addFile path).Tries s [s.files.load path] := by
  rw [FileTree.load]
  cases hread : s.files.readText path with
  | error e =>
    refine tries_of_error ?_
    rw [addFile, Run.get_bind, hread]
    rfl
  | ok text =>
    refine .congr ?_ (tries_addSource path text s)
    rw [addFile, Run.get_bind, hread]

/-- Adding files tries one after another and stops at the first failure. -/
theorem tries_addFiles (paths : List String) (s : Session) :
    (addFiles paths).Tries s (paths.map s.files.load) := by
  induction paths generalizing s with
  | nil => exact tries_nil rfl rfl
  | cons path paths ih =>
    refine .bind (tries_addFile path s) fun s' hs' => ?_
    -- The later files are read from the same tree as the first one.
    have hfiles : s'.files = s.files := congrArg Prod.snd ((addFile_keeps path).of_ok hs')
    rw [← hfiles]
    exact ih s'

/-- A path that is no directory is added as a file. -/
theorem tries_addPath_file {path : String} {s : Session} (h : s.files.isDirectory path = false) :
    (addPath path).Tries s [s.files.load path] := by
  refine .congr ?_ (tries_addFile path s)
  rw [addPath, Run.get_bind, h]
  rfl

/-- A directory that can be listed is added as its schema files, in ascending order. -/
theorem tries_addPath_directory {dir : String} {s : Session} {paths : List String}
    (hs : s.files.Distinct) (h : s.files.isDirectory dir = true)
    (hlists : s.files.Lists dir paths) :
    (addPath dir).Tries s (paths.map s.files.load) := by
  refine .congr (addPath_of_lists hs h hlists) ?_
  cases paths with
  | nil => exact tries_nil rfl rfl
  | cons path paths => exact tries_addFiles (path :: paths) s

/-! ## Calls -/

/-- What a session can be asked to do. -/
inductive Call
  | addSource (label text : String)
  | addPath (path : String)
  | model
  | validate
  | generate
  | write (path : String)

namespace Call

/-- Does the call add sources? -/
def adds : Call → Bool
  | addSource _ _ => true
  | addPath _ => true
  | _ => false

/-- Does what is asked for. -/
def run : Call → Action Unit
  | addSource label text => WireSchema.addSource label text
  | addPath path => WireSchema.addPath path
  | model => do let _ ← makeModel
  | validate => do let _ ← WireSchema.validate
  | generate => do let _ ← WireSchema.generate
  | write path => writeCode path

/-- The sources that a call tries to add, in their order. -/
inductive Offers (t : FileTree) : Call → List (Except CompileError SourceFile) → Prop
  | text (label text : String) : Offers t (addSource label text) [loadText label text]
  | file {path : String} (h : t.isDirectory path = false) : Offers t (addPath path) [t.load path]
  | directory {path : String} {paths : List String} (h : t.isDirectory path = true)
      (hlists : t.Lists path paths) : Offers t (addPath path) (paths.map t.load)
  | unlisted {path : String} {e : FileError} (h : t.isDirectory path = true)
      (hunlisted : t.Unlisted path e) : Offers t (addPath path) [.error (.io path e)]

variable {call : Call} {s : Session} {t : FileTree} {tried : List (Except CompileError SourceFile)}

/-- A call tries what it offers. -/
theorem Offers.tries (hs : s.files.Distinct) (h : call.Offers s.files tried) :
    call.run.Tries s tried := by
  cases h with
  | text label text => exact tries_addSource label text s
  | file hdir => exact tries_addPath_file hdir
  | directory hdir hlists => exact tries_addPath_directory hs hdir hlists
  | unlisted hdir hunlisted => exact tries_of_error (addPath_of_unlisted hdir hunlisted)

/-- Calls that do not add sources leave them as they are. -/
theorem run_keeps_sources (h : call.adds = false) : call.run.Keeps Session.sources := by
  cases call with
  | addSource | addPath => cases h
  | model => exact .bind (makeModel_keeps.comp fun c => c.2.1) fun _ => keeps_pure ()
  | validate => exact .bind (validate_keeps.comp fun c => c.2.1) fun _ => keeps_pure ()
  | generate => exact .bind (generate_keeps.comp fun c => c.2.1) fun _ => keeps_pure ()
  | write path => exact (writeCode_keeps path).comp Prod.snd

/-- No call sees in which order entries are listed. -/
theorem blind_run (call : Call) : call.run.Blind := by
  cases call with
  | addSource label text => exact blind_addSource label text
  | addPath path => exact blind_addPath path
  | model => exact .bind blind_makeModel fun _ => blind_pure ()
  | validate => exact .bind blind_validate fun _ => blind_pure ()
  | generate => exact .bind blind_generate fun _ => blind_pure ()
  | write path => exact blind_writeCode path

end Call

/-! ## Runs -/

/-- The session after calls. A call that fails does not end the run. -/
def Session.perform (s : Session) : List Call → Session
  | [] => s
  | call :: calls => (call.run.after s).perform calls

/-- Calls add sources: each one those of the texts it tries that are taken, or none. -/
inductive Session.Queues : Session → List Call → List SourceFile → Prop
  | done (s : Session) : Queues s [] []
  | adding {s : Session} {call : Call} {calls : List Call}
      {tried : List (Except CompileError SourceFile)} {failure : Option CompileError}
      {files queue : List SourceFile} (hoffers : call.Offers s.files tried)
      (htakes : Takes tried failure files) (hrest : Queues (call.run.after s) calls queue) :
      Queues s (call :: calls) (files ++ queue)
  | other {s : Session} {call : Call} {calls : List Call} {queue : List SourceFile}
      (h : call.adds = false) (hrest : Queues (call.run.after s) calls queue) :
      Queues s (call :: calls) queue

namespace Session

variable {s s' : Session}

theorem relists_self (h : s.files.Distinct) : s.Relists s :=
  ⟨rfl, rfl, rfl, rfl, .refl _, h⟩

/-- Calls keep the places of files distinct. -/
theorem distinct_after (h : s.files.Distinct) (call : Call) :
    (call.run.after s).files.Distinct :=
  (call.blind_run s s (relists_self h)).after.files.distinct

/-- The sources after a run of calls are those before it, and then the queue. -/
theorem Queues.sources_eq (hs : s.files.Distinct) {calls : List Call} {queue : List SourceFile}
    (h : s.Queues calls queue) : (s.perform calls).sources = s.sources ++ queue := by
  induction h with
  | done s => rw [perform, List.append_nil]
  | adding hoffers htakes hrest ih =>
    rw [perform, ih (distinct_after hs _), ((hoffers.tries hs).adds _ _ htakes).2,
      List.append_assoc]
  | other hadds hrest ih => rw [perform, ih (distinct_after hs _), Call.run_keeps_sources hadds]

end Session

end WireSchema
