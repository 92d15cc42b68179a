import WireSchema.Proofs.Value.Safety
import WireSchema.Proofs.Wire.Depth

/-!
# Reading and least sizes come to an end

Kinds refer to messages by name, and messages may hold arrays of themselves, so neither the readers
of values nor their least sizes follow the syntax of kinds. Both go down to a bounded depth instead.
The bounds are never felt (`Value.readField_terminates`), whatever the kind and the data:

* a name outside of a counted array leads down in the order of inline nesting, which has no circles,
  so a schema with `n` messages is left after `n` levels, and at most one enum below them;
* a counted array takes four bytes for its count before its elements are read.

Running out of depth is an outcome of its own for readers. For least sizes it is made one here
(`Model.nameMinSize?`), so that it can be told from a size of zero.
-/

namespace WireSchema

open Reader

variable {s : Schema}

/-! ## More depth gives the same -/

/-- A kind is read with a greater depth where messages are. -/
theorem Kind.read_deepens {message message' : Message → Reader ValueError Value}
    (hmessage : ∀ m, (message m).Deepens (message' m)) (kind : Kind) :
    (kind.read s message).Deepens (kind.read s message') := by
  induction kind with
  | primitive p => exact .refl _
  | array element len ih =>
    cases len with
    | counted => exact (Deepens.refl _).bind fun n => (ih.times n).bind fun _ => .refl _
    | fixed n =>
      rw [Kind.read, Kind.read]
      refine (Deepens.refl _).bind fun c => ?_
      -- The tests in front of the items do not depend on the depth.
      dsimp only
      split
      · exact .refl _
      · split
        · exact .refl _
        · exact (ih.times n).bind fun _ => .refl _
  | named name =>
    rw [Kind.read, Kind.read]
    split
    · exact .refl _
    · exact hmessage _
    · exact .refl _
  | unsupported text => exact .refl _

/-- Fields are read with a greater depth where their kinds are. -/
theorem readFields_deepens {read read' : Kind → Reader ValueError Value}
    (hread : ∀ kind, (read kind).Deepens (read' kind)) (fields : List Field) :
    (readFields read fields).Deepens (readFields read' fields) := by
  induction fields with
  | nil => exact .refl _
  | cons f fields ih => exact (hread f.kind).bind fun _ => ih.bind fun _ => .refl _

/-- A greater bound on the depth keeps every answer that a smaller one gives. -/
theorem Message.readWithin_deepens {depth depth' : Nat} (h : depth ≤ depth') (m : Message) :
    (m.readWithin s depth).Deepens (m.readWithin s depth') := by
  induction depth generalizing depth' m with
  | zero => exact fun c hc => absurd rfl (hc c)
  | succ depth ih =>
    obtain ⟨depth', rfl⟩ := Nat.exists_eq_succ_of_ne_zero (Nat.ne_zero_of_lt h)
    have hread := Kind.read_deepens (s := s) (ih (Nat.le_of_succ_le_succ h))
    exact (readFields_deepens hread m.fields).bind fun _ => .refl _

/-- More data has a greater bound. -/
theorem Schema.depthBound_mono (s : Schema) {n n' : Nat} (h : n ≤ n') :
    s.depthBound n ≤ s.depthBound n' :=
  Nat.mul_le_mul_left _ (Nat.succ_le_succ h)

/-- The reader of a message is steady, although its depth hangs on all of the data. -/
theorem Value.readMessage_steady {m : Message} (hm : m ∈ s.messages) :
    (Value.readMessage s m).Steady ValueError.isShort := by
  refine steady_of_depth (fun depth => m.readWithin_steady depth)
    (fun h => m.readWithin_deepens h) s.depthBound_mono fun c c' h => ?_
  cases readMessage_reports hm (c := c) h

/-! ## Least sizes that can run out of depth -/

/-- The least size of a kind, where `named` gives it for names or runs out of depth. -/
def Kind.minSize? (named : String → Option Nat) : Kind → Option Nat
  | .primitive p => some p.minSize
  | .array _ .counted => some 4
  | .array element (.fixed n) => (element.minSize? named).map (sizeMul n)
  | .named name => named name
  | .unsupported _ => some 0

/-- The least size of a named kind, or nothing if more than `depth` messages stand one inside the
    other. -/
def Model.nameMinSize? (model : Model) : Nat → String → Option Nat
  | 0, _ => none
  | depth + 1, name =>
    match model.resolve? name with
    | some (.enumeration e) => some e.wireWidth.bytes
    | some (.message m) =>
      m.fields.foldlM
        (fun n f => (f.kind.minSize? (model.nameMinSize? depth)).map (sizeAdd n)) 0
    | none => some 0

/-- Only the names that a kind stores in itself are asked for. -/
theorem Kind.minSize?_eq_some {named? : String → Option Nat} {named : String → Nat} {kind : Kind}
    (h : ∀ name, kind.Stores name → named? name = some (named name)) :
    kind.minSize? named? = some (kind.minSize named) := by
  induction kind with
  | primitive p => rfl
  | array element len ih =>
    cases len with
    | counted => rfl
    | fixed n =>
      rw [minSize?, ih fun name hname => h name (.fixed n hname)]
      rfl
  | named name => exact h name (.named name)
  | unsupported text => rfl

/-- A sum of sizes that are all there is there. -/
theorem foldlM_sizeAdd {size? : Field → Option Nat} {size : Field → Nat} {fields : List Field}
    (h : ∀ f ∈ fields, size? f = some (size f)) (n : Nat) :
    fields.foldlM (fun n f => (size? f).map (sizeAdd n)) n =
      some (fields.foldl (fun n f => sizeAdd n (size f)) n) := by
  induction fields generalizing n with
  | nil => rfl
  | cons f fields ih =>
    obtain ⟨hf, hfields⟩ := List.forall_mem_cons.1 h
    rw [List.foldlM_cons, hf]
    exact ih hfields _

/-- A message has its least size from its rank on, with one level more for enums inside of it. -/
theorem Schema.nameMinSize?_eq_some {rank : String → Nat} (hrank : s.IsRanking rank)
    {depth depth' : Nat} {name : String} (hpos : 0 < depth) (hpos' : 0 < depth')
    (h : ∀ m, s.resolve? name = some (.message m) →
      rank m.name + 1 < depth ∧ rank m.name + 1 < depth') :
    s.model.nameMinSize? depth name = some (s.model.nameMinSize depth' name) := by
  induction depth generalizing depth' name with
  | zero => exact absurd hpos (Nat.lt_irrefl 0)
  | succ depth ih =>
    obtain ⟨depth', rfl⟩ := Nat.exists_eq_succ_of_ne_zero (Nat.ne_zero_of_lt hpos')
    change ∀ m, s.model.resolve? name = some (.message m) → _ at h
    rw [Model.nameMinSize?, Model.nameMinSize]
    cases hresolve : s.model.resolve? name with
    | none => rfl
    | some t =>
      cases t with
      | enumeration e => rfl
      | message m =>
        obtain ⟨hdepth, hdepth'⟩ := h m hresolve
        obtain ⟨hm, -⟩ := Schema.mem_of_resolve? hresolve
        refine foldlM_sizeAdd (fun f hf => Kind.minSize?_eq_some fun name' hname' => ?_) 0
        refine ih (by omega) (by omega) fun b hb => ?_
        -- What a field stores has a lower rank than its message.
        obtain ⟨hbmem, rfl⟩ := Schema.mem_of_resolve? hb
        have := hrank.down m hm b hbmem f hf hname'
        omega

namespace Value

/-- Reading a value of any kind from any place of any data, and the least size of the kind, come to
    an end: beyond a bound that the schema and the size of the data give, more depth changes
    nothing, and the depth does not run out. -/
theorem readField_terminates (s : Schema) (kind : Kind) (c : Cursor) :
    (∀ depth, s.depthBound c.data.size ≤ depth →
      kind.read s (Message.readWithin s depth) c = readField s kind c) ∧
    (∀ c', readField s kind c ≠ .error .exhausted c') ∧
    ∀ depth, s.messages.length < depth →
      kind.minSize? (s.model.nameMinSize? depth) = some (s.minSize kind) := by
  have hends : ∀ c', readField s kind c ≠ .error .exhausted c' :=
    fun c' h => (readField_failure h).ne_exhausted rfl
  refine ⟨fun depth hdepth => ?_, hends, fun depth hdepth => ?_⟩
  · have hmessage := Message.readWithin_deepens (s := s) hdepth
    exact Kind.read_deepens hmessage kind hends
  · -- Ranks are below the number of messages, so the depth is enough for each of them.
    obtain ⟨rank, hrank⟩ := s.exists_isRanking
    refine Kind.minSize?_eq_some fun name _ => ?_
    refine Schema.nameMinSize?_eq_some hrank (by omega) (Nat.succ_pos _) fun m hm => ?_
    have := hrank.lt m (Schema.mem_of_resolve? hm).1
    omega

/-- An array of pings, which take no bytes: no schema lets such an array through, but it can be read
    all the same. -/
theorem readField_terminates_pings :
    let pings : Kind := .array (.array (.named "Ping") .counted) .counted
    let data : ByteArray := ⟨#[1, 0, 0, 0, 3, 0, 0, 0, 9, 9, 9]⟩
    pings.read Game.schema (Message.readWithin Game.schema 1000) ⟨data, 0⟩ =
        readField Game.schema pings ⟨data, 0⟩ ∧
      (∀ c', readField Game.schema pings ⟨data, 0⟩ ≠ .error .exhausted c') ∧
      pings.minSize? (Game.schema.model.nameMinSize? 9) = some (Game.schema.minSize pings) := by
  intro pings data
  obtain ⟨hread, hends, hsize⟩ := readField_terminates Game.schema pings ⟨data, 0⟩
  exact ⟨hread 1000 (by decide), hends, hsize 9 (by decide)⟩

end Value

end WireSchema
