import Mathlib.Data.List.DropRight
import WireSchema.FileTree

/-!
# Writing into file trees

A file is written as a whole or not at all. Whether it can be written is a matter of its path alone
(`FileTree.Writable`), and a tree with the file written differs from the old one in nothing but the
content of this file (`FileTree.Replaces`).
-/

namespace WireSchema.FileTree

variable {t t' : FileTree} {path : String} {place : List String} {node : FileNode}

/-! ## Putting a node in its place -/

/-- Taking out the entries of one key leaves what is found under another. -/
theorem lookup_filter_of_ne {α β : Type} [BEq α] [LawfulBEq α] {a k : α} (h : a ≠ k)
    (entries : List (α × β)) : (entries.filter fun e => e.1 != k).lookup a = entries.lookup a := by
  induction entries with
  | nil => rfl
  | cons e entries ih =>
    obtain ⟨b, x⟩ := e
    by_cases hb : b = k
    · have hak : (a == k) = false := beq_eq_false_iff_ne.2 h
      simp [List.lookup_cons, hb, hak, ih]
    · simp [List.lookup_cons, hb, ih]

/-- Putting something in a place leaves what is in the others. -/
theorem node?_put_of_ne {p : List String} (h : p ≠ place) :
    (t.put place node).node? p = t.node? p := by
  have hp : (p == place) = false := beq_eq_false_iff_ne.2 h
  simp only [node?, put, List.lookup_cons, hp, lookup_filter_of_ne h t.nodes]

/-- Is there a directory at a place? -/
def hasDirectory (t : FileTree) (place : List String) : Bool :=
  (t.node? place).any FileNode.isDirectory

/-- The working directory and those above it are directories. -/
theorem hasDirectory_of_isPrefixOf (h : place.isPrefixOf t.workingDir = true) :
    t.hasDirectory place = true := by
  rw [hasDirectory, node?, if_pos h, Option.any_some]
  cases hfilter : (t.nodes.lookup place).filter FileNode.isDirectory with
  | none => rfl
  | some node => exact (Option.filter_eq_some_iff.1 hfilter).2

/-- What is put in a place where no directory is can be found there. -/
theorem node?_put_self (h : t.hasDirectory place = false) :
    (t.put place node).node? place = some node := by
  have hbelow : ¬place.isPrefixOf t.workingDir := by
    intro hbelow
    rw [hasDirectory_of_isPrefixOf hbelow] at h
    cases h
  simp [node?, put, hbelow]

/-- The directories of a tree stay when something else is put where none is. -/
theorem hasDirectory_put (h : t.hasDirectory place = false) (hnode : node.isDirectory = false)
    (p : List String) : (t.put place node).hasDirectory p = t.hasDirectory p := by
  by_cases hp : p = place
  · subst hp
    rw [h, hasDirectory, node?_put_self h, Option.any_some, hnode]
  · rw [hasDirectory, hasDirectory, node?_put_of_ne hp]

/-! ## Paths -/

/-- A way goes on from a directory only. -/
theorem walk_cons_eq_ok_iff {name : String} {names start target : List String} :
    t.walk start (name :: names) = .ok target ↔
      t.hasDirectory start = true ∧ t.walk (enter start name) names = .ok target := by
  rw [walk, hasDirectory]
  cases t.node? start with
  | none => simp
  | some node => cases node <;> simp [FileNode.isDirectory]

/-- A way to somewhere passes directories only, so it goes past a file that is put in a place where
    no directory is. -/
theorem walk_put_eq_ok_iff (hplace : t.hasDirectory place = false)
    (hnode : node.isDirectory = false) {names start target : List String} :
    (t.put place node).walk start names = .ok target ↔ t.walk start names = .ok target := by
  induction names generalizing start with
  | nil => rfl
  | cons name names ih =>
    rw [walk_cons_eq_ok_iff, walk_cons_eq_ok_iff, hasDirectory_put hplace hnode, ih]

/-- A path leads to the same place after a file is put where no directory is. -/
theorem locate_put_eq_ok_iff (hplace : t.hasDirectory place = false)
    (hnode : node.isDirectory = false) {names target : List String} :
    (t.put place node).locate path names = .ok target ↔ t.locate path names = .ok target := by
  rw [locate, locate]
  by_cases hnul : path.toList.contains '\x00' = true
  · rw [if_pos hnul, if_pos hnul]
  · rw [if_neg hnul, if_neg hnul]
    by_cases hempty : (path == "") = true
    · rw [if_pos hempty, if_pos hempty]
    · rw [if_neg hempty, if_neg hempty]
      exact walk_put_eq_ok_iff hplace hnode

/-! ## Writing -/

/-- A file can be written at a path, and the path leads to a place: everything on the way there is a
    directory, the path asks for no directory, and nothing that is there refuses. -/
structure Writable (t : FileTree) (path : String) (place : List String) : Prop where
  locate_eq : t.locate path (pathNames path) = .ok place
  no_slash : ∀ h : pathNames path ≠ [], (pathNames path).getLast h ≠ ""
  no_refusal : (t.node? place).bind FileNode.refusal? = none

theorem Writable.no_directory (h : t.Writable path place) : t.hasDirectory place = false := by
  have hfree := h.no_refusal
  rw [hasDirectory]
  cases hnode : t.node? place with
  | none => rfl
  | some node =>
    rw [hnode, Option.bind_some] at hfree
    cases node with
    | file | locked | broken => rfl
    | directory | closed => cases hfree

/-- The names of a path are kept when the empty ones at their end are left out exactly if the path
    does not end in a slash. -/
theorem rdropWhile_pathNames_iff : (pathNames path).rdropWhile (· == "") = pathNames path ↔
    ∀ h : pathNames path ≠ [], (pathNames path).getLast h ≠ "" := by
  simp [List.rdropWhile_eq_self_iff]

/-- In a writable place, writing puts the file. -/
theorem write_of_writable (h : t.Writable path place) (content : ByteArray) :
    t.write path content = .ok (t.put place (.file content)) := by
  have hnames := rdropWhile_pathNames_iff.2 h.no_slash
  change (t.locate path ((pathNames path).rdropWhile (· == "")) >>= _) = _
  rw [hnames, h.locate_eq]
  have hlength : ¬((pathNames path).rdropWhile (· == "")).length < (pathNames path).length := by
    rw [hnames]
    exact Nat.lt_irrefl _
  change (if ((pathNames path).rdropWhile (· == "")).length < (pathNames path).length
    then _ else _) = _
  rw [if_neg hlength, h.no_refusal]
  rfl

/-- Only a writable place can have been written. -/
theorem exists_writable_of_write {content : ByteArray} (h : t.write path content = .ok t') :
    ∃ place, t.Writable path place := by
  change (t.locate path ((pathNames path).rdropWhile (· == "")) >>= _) = _ at h
  cases hlocate : t.locate path ((pathNames path).rdropWhile (· == "")) with
  | error e =>
    rw [hlocate] at h
    cases h
  | ok place =>
    rw [hlocate] at h
    change (if ((pathNames path).rdropWhile (· == "")).length < (pathNames path).length then _
      else _) = _ at h
    by_cases hlength : ((pathNames path).rdropWhile (· == "")).length < (pathNames path).length
    · rw [if_pos hlength] at h
      cases h
    · rw [if_neg hlength] at h
      -- Nothing was cut off behind the last name, so the path does not end in a slash.
      have hnames : (pathNames path).rdropWhile (· == "") = pathNames path :=
        (List.rdropWhile_prefix _ _).eq_of_length_le (Nat.le_of_not_lt hlength)
      refine ⟨place, hnames ▸ hlocate, rdropWhile_pathNames_iff.1 hnames, ?_⟩
      cases hfree : (t.node? place).bind FileNode.refusal? with
      | none => rfl
      | some e =>
        rw [hfree] at h
        cases h

/-- Writing succeeds in writable places, and puts the file there. -/
theorem write_eq_ok_iff {content : ByteArray} :
    t.write path content = .ok t' ↔
      ∃ place, t.Writable path place ∧ t' = t.put place (.file content) := by
  refine ⟨fun h => ?_, ?_⟩
  · obtain ⟨place, hwritable⟩ := exists_writable_of_write h
    rw [write_of_writable hwritable] at h
    exact ⟨place, hwritable, (Except.ok.inj h).symm⟩
  · rintro ⟨place, hwritable, rfl⟩
    exact write_of_writable hwritable content

/-- Whether a file can be written does not depend on its content. -/
theorem exists_write_iff {content : ByteArray} :
    (∃ t', t.write path content = .ok t') ↔ ∃ place, t.Writable path place := by
  simp only [write_eq_ok_iff]
  exact ⟨fun ⟨_, place, h, _⟩ => ⟨place, h⟩, fun ⟨place, h⟩ => ⟨_, place, h, rfl⟩⟩

/-- A tree differs from another in nothing but the file that a path names, which has the given
    content. -/
structure Replaces (t : FileTree) (path : String) (content : ByteArray) (t' : FileTree) : Prop where
  workingDir_eq : t'.workingDir = t.workingDir
  read_eq : t'.read path = .ok content
  node?_eq : ∀ place, t.locate path (pathNames path) ≠ .ok place → t'.node? place = t.node? place

/-- A file that is written replaces what its path led to, and nothing else. -/
theorem replaces_of_write {content : ByteArray} (h : t.write path content = .ok t') :
    t.Replaces path content t' := by
  obtain ⟨place, hwritable, rfl⟩ := write_eq_ok_iff.1 h
  refine ⟨rfl, ?_, fun p hp => node?_put_of_ne ?_⟩
  · have hlocate : (t.put place (.file content)).locate path (pathNames path) = .ok place :=
      (locate_put_eq_ok_iff hwritable.no_directory rfl).2 hwritable.locate_eq
    simp only [read, find, hlocate, bind, Except.bind, node?_put_self hwritable.no_directory]
    rfl
  · rintro rfl
    exact hp hwritable.locate_eq

end WireSchema.FileTree
