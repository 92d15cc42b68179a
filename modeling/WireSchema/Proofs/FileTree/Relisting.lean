import WireSchema.Proofs.FileTree
import WireSchema.Proofs.Value.Write

/-!
# The order of entries

The entries of a tree stand in some order, which nothing but the listing of a directory can see. In
a tree where no place has two entries (`FileTree.Distinct`), what a path names, and whether and
where a file is written, are the same in every order (`FileTree.Relists`), and a listing has the
same entries.
-/

namespace WireSchema.FileTree

variable {t t' : FileTree} {path : String} {place : List String}

/-! ## Trees with distinct places -/

/-- No place has two entries. -/
def Distinct (t : FileTree) : Prop :=
  (t.nodes.map Prod.fst).Nodup

/-- Where places are distinct, every entry can be found. -/
theorem lookup_eq_some_iff_mem (h : t.Distinct) {node : FileNode} :
    t.nodes.lookup place = some node ↔ (place, node) ∈ t.nodes :=
  ⟨mem_of_lookup_eq_some, fun hmem => lookup_of_mem h hmem⟩

/-- Putting a node takes the old one out, so the places stay distinct. -/
theorem distinct_put (h : t.Distinct) (place : List String) (node : FileNode) :
    (t.put place node).Distinct := by
  have hsub : (t.nodes.filter fun e => e.1 != place).Sublist t.nodes := List.filter_sublist
  refine List.nodup_cons.2 ⟨?_, h.sublist (hsub.map Prod.fst)⟩
  simp

/-! ## Listings -/

/-- An entry of a listing is that of something directly below the place. -/
theorem entry_eq_some_iff {names : List String} {node : FileNode}
    {entry : Except FileError String} :
    (if names.dropLast == place then names.getLast?.map fun name => node.entry name else none) =
        some entry ↔
      ∃ name, names = place ++ [name] ∧ node.entry name = entry := by
  refine ⟨fun h => ?_, ?_⟩
  · by_cases hplace : (names.dropLast == place) = true
    · rw [if_pos hplace] at h
      obtain ⟨name, hname, hentry⟩ := Option.map_eq_some_iff.1 h
      refine ⟨name, ?_, hentry⟩
      rw [← beq_iff_eq.1 hplace, List.dropLast_append_getLast? name hname]
    · rw [if_neg hplace] at h
      cases h
  · rintro ⟨name, rfl, rfl⟩
    simp

theorem eq_of_entry {node : FileNode} {name name' : String} (h : node.entry name = .ok name') :
    name = name' := by
  cases node with
  | broken => cases h
  | file | locked | directory | closed => exact Except.ok.inj h

/-- No name is listed twice: two entries with one name would be two entries of one place. -/
theorem nodup_of_entriesAt (ht : t.Distinct) {names : List String}
    (h : t.entriesAt place = names.map .ok) : names.Nodup := by
  have hpairwise : (t.entriesAt place).Pairwise fun x y => ∀ name, x = .ok name → y ≠ .ok name := by
    refine List.pairwise_filterMap.2 ((List.pairwise_map.1 ht).imp ?_)
    rintro ⟨names, node⟩ ⟨names', node'⟩ hne x hx y hy name rfl rfl
    obtain ⟨_, rfl, hname⟩ := entry_eq_some_iff.1 hx
    obtain ⟨_, rfl, hname'⟩ := entry_eq_some_iff.1 hy
    obtain rfl := eq_of_entry hname
    obtain rfl := eq_of_entry hname'
    exact hne rfl
  rw [h, List.pairwise_map] at hpairwise
  refine hpairwise.imp fun {a b} hab hsame => ?_
  exact hab a rfl (congrArg Except.ok hsame.symm)

/-- A directory can be listed if its path leads there and it is not closed. -/
theorem entriesIn_eq_ok_iff {entries : List (Except FileError String)} :
    t.entriesIn path = .ok entries ↔ ∃ place, t.locate path (pathNames path) = .ok place ∧
      (∀ e, t.node? place ≠ some (.closed e)) ∧ entries = t.entriesAt place := by
  rw [entriesIn]
  cases t.locate path (pathNames path) with
  | error e =>
    refine iff_of_false (fun h => by cases h) ?_
    rintro ⟨place, h, -⟩
    cases h
  | ok place =>
    simp only [Except.ok.injEq, exists_eq_left']
    dsimp only [bind, Except.bind]
    split
    · next e hclosed =>
      exact iff_of_false (fun h => by cases h) fun h => absurd hclosed (h.1 e)
    · next hopen =>
      exact ⟨fun h => ⟨hopen, (Except.ok.inj h).symm⟩, fun h => congrArg Except.ok h.2.symm⟩

/-- An entry of a directory cannot be read. -/
def Breaks (t : FileTree) (dir : String) (e : FileError) : Prop :=
  ∃ entries, t.entriesIn dir = .ok entries ∧ .error e ∈ entries

/-- Two trees have the same entries, each in an order of its own. -/
structure Relists (t t' : FileTree) : Prop where
  workingDir_eq : t'.workingDir = t.workingDir
  perm : t'.nodes.Perm t.nodes
  distinct : t.Distinct

theorem Relists.distinct_right (h : t.Relists t') : t'.Distinct :=
  (h.perm.map Prod.fst).nodup_iff.2 h.distinct

/-- The order of the entries does not decide what is in a place. -/
theorem Relists.node?_eq (h : t.Relists t') (place : List String) :
    t'.node? place = t.node? place := by
  have hlookup : t'.nodes.lookup place = t.nodes.lookup place := by
    ext node
    rw [lookup_eq_some_iff_mem h.distinct_right, lookup_eq_some_iff_mem h.distinct, h.perm.mem_iff]
  rw [node?, node?, h.workingDir_eq, hlookup]

theorem Relists.walk_eq (h : t.Relists t') (place names : List String) :
    t'.walk place names = t.walk place names := by
  induction names generalizing place with
  | nil => rfl
  | cons name names ih => simp only [walk, h.node?_eq, ih]

theorem Relists.locate_eq (h : t.Relists t') (path : String) (names : List String) :
    t'.locate path names = t.locate path names := by
  simp only [locate, h.workingDir_eq, h.walk_eq]

/-- A path finds the same in both trees. -/
theorem Relists.find_eq (h : t.Relists t') (path : String) : t'.find path = t.find path := by
  simp only [find, h.locate_eq, h.node?_eq]

theorem Relists.isDirectory_eq (h : t.Relists t') (path : String) :
    t'.isDirectory path = t.isDirectory path := by
  rw [isDirectory, isDirectory, h.find_eq]

theorem Relists.isFile_eq (h : t.Relists t') (path : String) : t'.isFile path = t.isFile path := by
  rw [isFile, isFile, h.find_eq]

/-- Both listings fail in the same way, or both have the same entries. -/
theorem Relists.entriesIn (h : t.Relists t') (path : String) :
    (∃ e, t.entriesIn path = .error e ∧ t'.entriesIn path = .error e) ∨
      ∃ entries entries', t.entriesIn path = .ok entries ∧ t'.entriesIn path = .ok entries' ∧
        entries'.Perm entries := by
  cases hentries : t.entriesIn path with
  | error e =>
    refine .inl ⟨e, rfl, ?_⟩
    rw [← hentries]
    simp only [FileTree.entriesIn, h.locate_eq, h.node?_eq] at hentries ⊢
    cases hplace : t.locate path (pathNames path) with
    | error e' => rfl
    | ok place =>
      rw [hplace] at hentries
      revert hentries
      dsimp only [bind, Except.bind]
      split
      · exact fun _ => rfl
      · exact fun hok => by cases hok
  | ok entries =>
    obtain ⟨place, hplace, hopen, rfl⟩ := entriesIn_eq_ok_iff.1 hentries
    refine .inr ⟨_, _, rfl, entriesIn_eq_ok_iff.2 ⟨place, ?_, ?_, rfl⟩, h.perm.filterMap _⟩
    · rw [h.locate_eq, hplace]
    · simpa only [h.node?_eq] using hopen

/-- A file has the same text. -/
theorem Relists.readText_eq (h : t.Relists t') (path : String) :
    t'.readText path = t.readText path := by
  simp only [readText, read, h.find_eq]

/-- Trees that list alike do so after the same node is put in the same place. -/
theorem Relists.put (h : t.Relists t') (place : List String) (node : FileNode) :
    (t.put place node).Relists (t'.put place node) :=
  ⟨h.workingDir_eq, (h.perm.filter _).cons _, distinct_put h.distinct place node⟩

/-- Both trees refuse a file for the same reason, or both take it. -/
theorem Relists.write (h : t.Relists t') (path : String) (content : ByteArray) :
    (∃ e, t.write path content = .error e ∧ t'.write path content = .error e) ∨
      ∃ u u', t.write path content = .ok u ∧ t'.write path content = .ok u' ∧ u.Relists u' := by
  simp only [FileTree.write, h.locate_eq, h.node?_eq]
  cases t.locate path ((pathNames path).reverse.dropWhile (· == "")).reverse with
  | error e => exact .inl ⟨e, rfl, rfl⟩
  | ok place =>
    dsimp only [bind, Except.bind]
    split
    · exact .inl ⟨_, rfl, rfl⟩
    · cases (t.node? place).bind FileNode.refusal? with
      | some e => exact .inl ⟨e, rfl, rfl⟩
      | none => exact .inr ⟨_, _, rfl, rfl, h.put place _⟩

end WireSchema.FileTree
