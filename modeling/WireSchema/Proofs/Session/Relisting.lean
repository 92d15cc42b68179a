import Mathlib.Data.List.Lex
import WireSchema.Proofs.FileTree.Relisting
import WireSchema.Proofs.Session.Frame
import WireSchema.Proofs.Value.Render

/-!
# The order in which directories are listed

The entries of a directory come in no particular order, and a session adds its schema files in the
order of their paths (`FileTree.Lists`). So it does not see the order of the entries: from sessions
that differ in nothing else (`Session.Relists`), every action ends alike (`Action.Blind`).

A directory that refuses to be listed, or has an entry that cannot be read, is not listed at all
(`FileTree.Unlisted`). Whether this is so does not depend on the order either. Only of two entries
that cannot be read the first one is reported (`FileTree.ReportsAlike`).
-/

namespace WireSchema

open WireSchema.Action WireSchema.Source

/-! ## Directories -/

/-- Paths in a directory stand in the order of their names. -/
theorem joinPath_lt_joinPath (dir : String) {name name' : String} (h : name < name') :
    joinPath dir name < joinPath dir name' := by
  have happend (front : String) : front ++ name < front ++ name' := by
    rw [String.lt_iff_toList_lt] at h ⊢
    rw [String.toList_append, String.toList_append]
    exact List.Lex.append_left _ h _
  rw [joinPath, joinPath]
  split
  · exact happend dir
  · exact happend (dir ++ "/")

/-! ### Names up to the first failure -/

/-- A listing without errors gives its names. -/
theorem listedNames_map_ok (names : List String) :
    listedNames (names.map .ok) = .ok names := by
  induction names with
  | nil => rfl
  | cons name names ih =>
    rw [List.map_cons, listedNames, ih]
    rfl

/-- A listing fails at its first error, whatever comes behind. -/
theorem listedNames_append_error (names : List String) (e : FileError)
    (rest : List (Except FileError String)) :
    listedNames (names.map .ok ++ .error e :: rest) = .error e := by
  induction names with
  | nil => rfl
  | cons name names ih =>
    rw [List.map_cons, List.cons_append, listedNames, ih]
    rfl

/-- A listing goes well to its end, or up to a first failure. -/
theorem listing_cases (entries : List (Except FileError String)) :
    (∃ names : List String, entries = names.map .ok) ∨
      ∃ (names : List String) (e : FileError) (rest : List (Except FileError String)),
        entries = names.map .ok ++ .error e :: rest := by
  induction entries with
  | nil => exact .inl ⟨[], rfl⟩
  | cons entry entries ih =>
    cases entry with
    | error e => exact .inr ⟨[], e, entries, rfl⟩
    | ok name =>
      refine ih.imp ?_ ?_
      · rintro ⟨names, rfl⟩
        exact ⟨name :: names, rfl⟩
      · rintro ⟨names, e, rest, rfl⟩
        exact ⟨name :: names, e, rest, rfl⟩

/-! ### Schema files -/

/-- A directory cannot be listed to its end: it refuses, or after some names comes an entry that
    cannot be read. -/
inductive FileTree.Unlisted (t : FileTree) (dir : String) : FileError → Prop
  | refused {e : FileError} (h : t.entriesIn dir = .error e) : Unlisted t dir e
  | broken {names : List String} {e : FileError} {rest : List (Except FileError String)}
      (h : t.entriesIn dir = .ok (names.map .ok ++ .error e :: rest)) : Unlisted t dir e

/-- A directory is listed to its end, and these are the paths of the schema files in it, in
    ascending order. -/
structure FileTree.Lists (t : FileTree) (dir : String) (paths : List String) : Prop where
  ascending : paths.Pairwise (· < ·)
  complete : ∃ names : List String, t.entriesIn dir = .ok (names.map .ok) ∧
    ∀ path, path ∈ paths ↔ ∃ name ∈ names, t.isFile (joinPath dir name) = true ∧
      isSchemaFile name = true ∧ path = joinPath dir name

namespace FileTree

variable {t t' : FileTree} {dir : String} {paths paths' : List String} {e : FileError}

/-- A directory has one list of schema files. -/
theorem Lists.unique (h : t.Lists dir paths) (h' : t.Lists dir paths') : paths = paths' := by
  obtain ⟨names, hnames, hmem⟩ := h.complete
  obtain ⟨names', hnames', hmem'⟩ := h'.complete
  have hsame : names = names' := by
    have hmap := Except.ok.inj (hnames.symm.trans hnames')
    exact List.map_injective_iff.2 (fun _ _ => Except.ok.inj) hmap
  have hperm : paths.Perm paths' := by
    refine (List.perm_ext_iff_of_nodup (h.ascending.imp ne_of_lt)
      (h'.ascending.imp ne_of_lt)).2 fun path => ?_
    rw [hmem, hmem', hsame]
  exact hperm.eq_of_pairwise (fun _ _ _ _ hlt hgt => absurd hgt (lt_asymm hlt)) h.ascending
    h'.ascending

/-- The schema files of a directory that is listed to its end. -/
theorem lists_schemaFiles (ht : t.Distinct) {names : List String}
    (h : t.entriesIn dir = .ok (names.map .ok)) :
    ∃ paths, schemaFiles t dir (names.map .ok) = .ok paths ∧ t.Lists dir paths := by
  obtain ⟨place, -, -, hentries⟩ := entriesIn_eq_ok_iff.1 h
  have hnodup : names.Nodup := nodup_of_entriesAt ht hentries.symm
  let found := names.filter fun name => t.isFile (joinPath dir name) && isSchemaFile name
  have hsorted :
      schemaFiles t dir (names.map .ok) = .ok ((sortNames found).map (joinPath dir)) := by
    rw [schemaFiles, listedNames_map_ok]
    rfl
  refine ⟨_, hsorted, ?_, names, h, fun path => ?_⟩
  · rw [List.pairwise_map]
    exact (sortNames_strict (hnodup.filter _)).imp (joinPath_lt_joinPath dir)
  · simp only [List.mem_map, (sortNames_perm _).mem_iff, found, List.mem_filter, Bool.and_eq_true,
      and_assoc, eq_comm (a := path)]

/-- A directory is listed to its end, or it is not and there is an error. -/
theorem lists_or_unlisted (ht : t.Distinct) (dir : String) :
    (∃ paths, t.Lists dir paths) ∨ ∃ e, t.Unlisted dir e := by
  cases hentries : t.entriesIn dir with
  | error e => exact .inr ⟨e, .refused hentries⟩
  | ok entries =>
    refine (listing_cases entries).imp ?_ ?_
    · rintro ⟨names, rfl⟩
      obtain ⟨paths, -, hlists⟩ := lists_schemaFiles ht hentries
      exact ⟨paths, hlists⟩
    · rintro ⟨names, e, rest, rfl⟩
      exact ⟨e, .broken hentries⟩

/-- Trees that list alike have the same schema files in a directory. -/
theorem Relists.lists (h : t.Relists t') (hlists : t.Lists dir paths) : t'.Lists dir paths := by
  obtain ⟨names, hnames, hmem⟩ := hlists.complete
  obtain ⟨e, he, -⟩ | ⟨entries, entries', hentries, hentries', hperm⟩ := h.entriesIn dir
  · cases hnames.symm.trans he
  · obtain rfl := Except.ok.inj (hnames.symm.trans hentries)
    obtain ⟨names', rfl⟩ | ⟨names', e, rest, rfl⟩ := listing_cases entries'
    · have hnames' : names'.Perm names := (List.map_perm_map_iff fun _ _ => Except.ok.inj).1 hperm
      refine ⟨hlists.ascending, names', hentries', fun path => ?_⟩
      simp only [hmem, hnames'.mem_iff, h.isFile_eq]
    · have herror : Except.error e ∈ names.map Except.ok := hperm.subset (by simp)
      simp at herror

/-- Two reports are the same, or they are about two entries of one directory that cannot be read. -/
inductive ReportsAlike (t : FileTree) : CompileError → CompileError → Prop
  | same (report : CompileError) : ReportsAlike t report report
  | entries {dir : String} {e e' : FileError} (h : t.Breaks dir e) (h' : t.Breaks dir e') :
      ReportsAlike t (.io dir e) (.io dir e')

/-- Reports that are alike in a tree are so in one with the same broken entries or more. -/
theorem ReportsAlike.imp {report report' : CompileError} (h : t.ReportsAlike report report')
    (hbreaks : ∀ dir e, t.Breaks dir e → t'.Breaks dir e) : t'.ReportsAlike report report' := by
  cases h with
  | same => exact .same _
  | entries he he' => exact .entries (hbreaks _ _ he) (hbreaks _ _ he')

/-- A directory that cannot be listed cannot be listed in another order, but another entry may fail
    first. -/
theorem Relists.unlisted (h : t.Relists t') (hunlisted : t.Unlisted dir e) :
    ∃ e', t'.Unlisted dir e' ∧ t.ReportsAlike (.io dir e) (.io dir e') := by
  obtain ⟨e₀, he, he'⟩ | ⟨entries, entries', hentries, hentries', hperm⟩ := h.entriesIn dir
  · cases hunlisted with
    | refused hrefused =>
      obtain rfl := Except.error.inj (hrefused.symm.trans he)
      exact ⟨_, .refused he', .same _⟩
    | broken hbroken => cases hbroken.symm.trans he
  · cases hunlisted with
    | refused hrefused => cases hrefused.symm.trans hentries
    | broken hbroken =>
      obtain rfl := Except.ok.inj (hbroken.symm.trans hentries)
      have hmem : Except.error e ∈ entries' := hperm.symm.subset (by simp)
      obtain ⟨names', rfl⟩ | ⟨names', e', rest', rfl⟩ := listing_cases entries'
      · simp at hmem
      · have hfirst : t.Breaks dir e := ⟨_, hentries, by simp⟩
        exact ⟨e', .broken hentries', .entries hfirst ⟨_, hentries, hperm.subset (by simp)⟩⟩

end FileTree

/-! ### Adding a directory -/

variable {s : Session} {dir : String}

/-- Adding a directory is adding the files that are listed, after a word about a directory without
    any. -/
theorem addPath_of_lists {paths : List String} (hs : s.files.Distinct)
    (hdir : s.files.isDirectory dir = true) (hlists : s.files.Lists dir paths) :
    addPath dir s = (do
      if paths.isEmpty then report (.noSchemaFiles dir)
      addFiles paths : Action Unit) s := by
  obtain ⟨names, hnames, -⟩ := hlists.complete
  obtain ⟨paths', hpaths, hlists'⟩ := FileTree.lists_schemaFiles hs hnames
  -- There is one way only to list the schema files in order.
  obtain rfl := hlists'.unique hlists
  rw [addPath, Run.get_bind, hdir, if_pos rfl, hnames]
  dsimp only
  rw [hpaths]

/-- A directory that cannot be listed to its end is not added, not even in part. -/
theorem addPath_of_unlisted {e : FileError} (hdir : s.files.isDirectory dir = true)
    (h : s.files.Unlisted dir e) : addPath dir s = .error (.io dir e) s := by
  rw [addPath, Run.get_bind, hdir, if_pos rfl]
  cases h with
  | refused h =>
    rw [h]
    rfl
  | broken h =>
    rw [h]
    dsimp only
    rw [schemaFiles, listedNames_append_error]
    rfl

/-! ## Other orders of entries -/

/-- Two sessions are the same but for the order of the entries of their trees. -/
structure Session.Relists (s s' : Session) : Prop where
  options_eq : s'.options = s.options
  sources_eq : s'.sources = s.sources
  log_eq : s'.log = s.log
  files : s.files.Relists s'.files

/-- Two ways to end are the same but for the order of entries. -/
inductive Action.Alike {α : Type} : EStateM.Result CompileError Session α →
    EStateM.Result CompileError Session α → Prop
  | ok (a : α) {s s' : Session} (h : s.Relists s') : Alike (.ok a s) (.ok a s')
  | error {e e' : CompileError} {s s' : Session} (he : s.files.ReportsAlike e e')
      (h : s.Relists s') : Alike (.error e s) (.error e' s')

/-- An action does not see the order of entries. -/
def Action.Blind {α : Type} (x : Action α) : Prop :=
  ∀ s s', s.Relists s' → Alike (x s) (x s')

/-- Why an action fails, if it does. -/
def Action.error? {α : Type} (x : Action α) (s : Session) : Option CompileError :=
  match x s with
  | .ok _ _ => none
  | .error e _ => some e

namespace Action

variable {α β : Type} {x : Action α} {s s' : Session}

/-- Actions that end alike have reports that are alike. -/
theorem Alike.error? (h : Alike (x s) (x s')) :
    Option.Rel (x.after s).files.ReportsAlike (x.error? s) (x.error? s') := by
  rw [Action.error?, Action.error?, Action.after]
  generalize x s = r, x s' = r' at h
  cases h with
  | ok a h => exact .none
  | error he h => exact .some he

/-- Actions that end alike leave sessions that list alike. -/
theorem Alike.after (h : Alike (x s) (x s')) : (x.after s).Relists (x.after s') := by
  rw [Action.after, Action.after]
  generalize x s = r, x s' = r' at h
  cases h <;> assumption

theorem blind_pure (a : α) : Blind (pure a : Action α) := fun _ _ h => .ok a h

theorem blind_throw (e : CompileError) : Blind (throw e : Action α) :=
  fun _ _ h => .error (.same e) h

/-- A change is blind if it takes sessions that list alike to such sessions. -/
theorem blind_modify {f : Session → Session}
    (hf : ∀ s s' : Session, s.Relists s' → (f s).Relists (f s')) :
    Blind (modify f : Action Unit) :=
  fun s s' h => .ok () (hf s s' h)

/-- Two blind actions in a row are blind. -/
theorem Blind.bind (hx : x.Blind) {f : α → Action β} (hf : ∀ a, (f a).Blind) :
    (x >>= f).Blind := by
  intro s s' h
  have halike := hx s s' h
  generalize hs : x s = r, hs' : x s' = r' at halike
  cases halike with
  | ok a h =>
    rw [Run.bind_of_ok hs, Run.bind_of_ok hs']
    exact hf a _ _ h
  | error he h =>
    rw [Run.bind_of_error hs, Run.bind_of_error hs']
    exact .error he h

/-- A look at the session is blind if what is seen of it is the same in every order. -/
theorem blind_get_bind {f : Session → Action β}
    (hsame : ∀ s s' : Session, s.Relists s' → f s' = f s) (hf : ∀ s, (f s).Blind) :
    Blind (get >>= f) := by
  intro s s' h
  rw [Run.get_bind, Run.get_bind, hsame s s' h]
  exact hf s s s' h

end Action

theorem blind_report (e : Event) : (report e).Blind :=
  blind_modify fun _ _ h => ⟨h.options_eq, h.sources_eq, congrArg (e :: ·) h.log_eq, h.files⟩

/-- Adding a text does not look at files. -/
theorem blind_addSource (label text : String) : (addSource label text).Blind := by
  have hpush (file : SourceFile) :
      (modify fun s => { s with sources := s.sources ++ [file] } : Action Unit).Blind :=
    blind_modify fun _ _ h =>
      ⟨h.options_eq, congrArg (· ++ [file]) h.sources_eq, h.log_eq, h.files⟩
  rw [addSource]
  split
  · exact blind_throw _
  · dsimp only
    split <;> exact .bind (blind_report _) fun _ => hpush _

/-- Adding a file reads it, and the text of a file does not depend on the listing. -/
theorem blind_addFile (path : String) : (addFile path).Blind := by
  refine blind_get_bind (fun s s' h => by rw [h.files.readText_eq]) fun s => ?_
  split
  · exact blind_throw _
  · exact blind_addSource _ _

theorem blind_addFiles (paths : List String) : (addFiles paths).Blind := by
  induction paths with
  | nil => exact blind_pure ()
  | cons path paths ih => exact .bind (blind_addFile path) fun _ => ih

/-- Adding a directory sorts what is listed, so the order of the listing is gone. -/
theorem blind_addPath (path : String) : (addPath path).Blind := by
  intro s s' h
  cases hdir : s.files.isDirectory path with
  | false =>
    have hdir' : s'.files.isDirectory path = false := by rw [h.files.isDirectory_eq, hdir]
    rw [addPath, Run.get_bind, Run.get_bind, hdir, hdir']
    exact blind_addFile path s s' h
  | true =>
    have hdir' : s'.files.isDirectory path = true := by rw [h.files.isDirectory_eq, hdir]
    obtain ⟨paths, hlists⟩ | ⟨e, hunlisted⟩ := FileTree.lists_or_unlisted h.files.distinct path
    · -- Both listings hold the same files, and sorting them removes the difference.
      have hrun := addPath_of_lists h.files.distinct hdir hlists
      have hrun' := addPath_of_lists h.files.distinct_right hdir' (h.files.lists hlists)
      rw [hrun, hrun']
      split
      · exact Blind.bind (blind_report _) (fun _ => blind_addFiles _) s s' h
      · exact blind_addFiles _ s s' h
    · obtain ⟨e', hunlisted', halike⟩ := h.files.unlisted hunlisted
      rw [addPath_of_unlisted hdir hunlisted, addPath_of_unlisted hdir' hunlisted']
      exact .error halike h

theorem blind_makeModel : makeModel.Blind := by
  rintro ⟨options, sources, files, log⟩ ⟨options', sources', files', log'⟩ h
  obtain ⟨rfl, rfl, rfl, hfiles⟩ := h
  exact .ok _ ⟨rfl, rfl, rfl, hfiles⟩

/-- Validating does not look at files. -/
theorem blind_validate : validate.Blind := by
  refine .bind blind_makeModel fun model => ?_
  split
  · exact blind_pure _
  · exact blind_throw _

theorem blind_generate : generate.Blind := by
  refine .bind blind_validate fun schema => ?_
  refine blind_get_bind (fun s s' h => by rw [h.options_eq]) fun s => ?_
  split
  · exact blind_throw _
  · exact .bind (blind_report _) fun _ => blind_pure _

/-- Writing code puts the same file in both trees. -/
theorem blind_writeCode (path : String) : (writeCode path).Blind := by
  refine .bind blind_generate fun code => ?_
  intro s s' h
  rw [Run.get_bind, Run.get_bind]
  obtain ⟨e, he, he'⟩ | ⟨u, u', hu, hu', hfiles⟩ := h.files.write path code.toUTF8
  · rw [he, he']
    exact .error (.same _) h
  · rw [hu, hu']
    exact blind_report _ _ _ ⟨h.options_eq, h.sources_eq, h.log_eq, hfiles⟩

end WireSchema
