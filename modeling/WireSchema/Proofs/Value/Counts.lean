import WireSchema.Proofs.Game.Schema
import WireSchema.Proofs.Value.Layout

/-!
# Counts do not amplify

The count in front of an array is up to the sender, and a few bytes could ask for billions of
elements. Two facts keep this in bounds (`Value.counts_le`).

A message that was read holds no more elements in its counted arrays, at all depths together, than
the bytes it was read from (`Value.counted`). The induction needs a little more: a value that takes
bytes at all holds *fewer* elements than it takes bytes, so that an array can add one for each of
its elements. This is where elements that take no bytes would break it, which no schema lets into
a counted array.

And also where reading fails later on, no loop over a count is entered unless the count is at most
the number of bytes behind it. To say this of all loops of a run, the readers are written a second
time with a list of the loops entered so far (`Tracer`). They do what the readers do
(`Tracer.Follows`).
-/

namespace WireSchema

variable {s : Schema}

/-! ## Elements of counted arrays -/

namespace Value

mutual

/-- The number of elements in the counted arrays of a value of a kind, at all depths. -/
def counted (s : Schema) (v : Value) (kind : Kind) : Nat :=
  match v with
  | array items =>
    match kind with
    | .array element .counted => items.length + countedItems s items element
    | .array element (.fixed _) => countedItems s items element
    | _ => 0
  | message _ fields =>
    match kind with
    | .named name =>
      match s.resolve? name with
      | some (.message m) => countedFields s fields m.fields
      | _ => 0
    | _ => 0
  | _ => 0
termination_by structural v

/-- The number of elements in the counted arrays of items of one kind. -/
def countedItems (s : Schema) (items : List Value) (element : Kind) : Nat :=
  match items with
  | [] => 0
  | v :: rest => v.counted s element + countedItems s rest element
termination_by structural items

/-- The number of elements in the counted arrays of values, each of the kind of the field with its
    name. -/
def countedFields (s : Schema) (values : List (String × Value)) (fields : List Field) : Nat :=
  match values with
  | [] => 0
  | (name, v) :: rest =>
    match fields.find? (·.name == name) with
    | some f => v.counted s f.kind + countedFields s rest fields
    | none => countedFields s rest fields
termination_by structural values

end

end Value

mutual

/-- A value that takes bytes holds fewer elements than bytes, and others hold none. -/
theorem Layout.counted_le {kind : Kind} {v : Value} {e : ByteArray} (hkind : s.Admits kind) :
    Layout s kind v e → v.counted s kind ≤ e.size - 1
  | .primitive h => by cases h <;> exact Nat.zero_le _
  | .counted hlen h => by
    -- The elements of a counted array all take bytes, and so leave one byte for each of them. The
    -- four bytes of the count make the array itself take more than it holds.
    have hitems := (h.counted_le hkind.element).2 (hkind.elements_weigh _ List.mem_cons_self)
    rw [ByteArray.size_append, List.size_toByteArray, leBytes_length, Value.counted]
    omega
  | .fixed h => (h.counted_le hkind.element).1
  | .enumeration _ _ => Nat.zero_le _
  | .message hm h => by
    obtain ⟨hmem, -⟩ := Schema.mem_of_resolve? hm
    rw [Value.counted, hm]
    exact h.counted_le (Schema.nodup_fields hmem) (fun f hf => Schema.admits_of_mem hmem hf)
      fun f hf => hf

/-- Items that all take bytes leave one byte for each of them. -/
theorem ItemsLayout.counted_le {kind : Kind} {items : List Value} {e : ByteArray}
    (hkind : s.Admits kind) : ItemsLayout s kind items e →
      Value.countedItems s items kind ≤ e.size - 1 ∧
      (¬s.model.Weightless kind → items.length + Value.countedItems s items kind ≤ e.size)
  | .nil => ⟨Nat.zero_le _, fun _ => Nat.le_refl 0⟩
  | .cons (e := e) h h' => by
    have hv := h.counted_le hkind
    obtain ⟨hitems, hweigh⟩ := h'.counted_le hkind
    rw [Value.countedItems, ByteArray.size_append, List.length_cons]
    refine ⟨by omega, fun hkind' => ?_⟩
    have hpos : e.size ≠ 0 := fun he => hkind' (h.weightless he)
    have := hweigh hkind'
    omega

/-- Together, the fields have fewer counted elements than bytes. -/
theorem FieldsLayout.counted_le {all fields : List Field} {values : List (String × Value)}
    {e : ByteArray} (hnodup : (all.map Field.name).Nodup) (hall : ∀ f ∈ all, s.Admits f.kind)
    (hfields : ∀ f ∈ fields, f ∈ all) : FieldsLayout s fields values e →
      Value.countedFields s values all ≤ e.size - 1
  | .nil => Nat.zero_le _
  | .cons (f := f) h h' => by
    obtain ⟨hf, hrest⟩ := List.forall_mem_cons.1 hfields
    have hv := h.counted_le (hall f hf)
    have hvs := h'.counted_le hnodup hall hrest
    rw [Value.countedFields, find?_key_of_nodup hnodup hf, ByteArray.size_append]
    dsimp only
    omega

end

/-- A message holds no more elements in counted arrays than the bytes it was read from. -/
theorem Value.counted_le_of_readMessage {m : Message} (hm : m ∈ s.messages) {c c' : Cursor}
    {v : Value} (hc : c.index ≤ c.data.size) (h : readMessage s m c = .ok v c') :
    v.counted s (.named m.name) ≤ c'.index - c.index := by
  obtain ⟨e, hspan, hlayout⟩ := readMessage_consumes hm hc h
  have hle := hlayout.counted_le (s.admits_named m.name)
  have := hspan.index_eq
  omega

/-! ## Loops over counts -/

/-- A loop over a count that was entered: the count, and the bytes that remained behind it. -/
structure Loop where
  count : Nat
  remaining : Nat

/-- A reader that lists the loops it has entered. -/
abbrev Tracer (ε α : Type) := EStateM (Stop ε) (Cursor × List Loop) α

/-- The outcome of a reader, with a list of loops. -/
def traced {ε α : Type} (loops : List Loop) :
    EStateM.Result (Stop ε) Cursor α → EStateM.Result (Stop ε) (Cursor × List Loop) α
  | .ok a c => .ok a (c, loops)
  | .error stop c => .error stop (c, loops)

namespace Tracer

variable {ε α β : Type}

/-- A reader without loops over counts. -/
def plain (r : Reader ε α) : Tracer ε α := fun p =>
  traced p.2 (r p.1)

/-- Lists a loop that is entered here. -/
def enter (count : Nat) : Tracer ε Unit :=
  modify fun p => (p.1, p.2 ++ [⟨count, p.1.remaining⟩])

/-- Reads `n` values one after the other. -/
def times (t : Tracer ε α) : Nat → Tracer ε (List α)
  | 0 => pure []
  | n + 1 => do
    let a ← t
    let as ← t.times n
    return a :: as

/-- The loops that a tracer enters from a cursor. -/
def loops (t : Tracer ε α) (c : Cursor) : List Loop :=
  match t (c, []) with
  | .ok _ p => p.2
  | .error _ p => p.2

/-! ### Tracers do what readers do -/

/-- The tracer does what the reader does, and enters loops only with counts that are not more than
    the bytes behind them. -/
def Follows (t : Tracer ε α) (r : Reader ε α) : Prop :=
  ∀ (c : Cursor) (loops : List Loop), ∃ entered,
    t (c, loops) = traced (loops ++ entered) (r c) ∧ ∀ l ∈ entered, l.count ≤ l.remaining

variable {t : Tracer ε α} {r : Reader ε α} {f : α → Tracer ε β} {g : α → Reader ε β}

/-- A tracer does what its reader does, and no loop it enters counts more than remains. -/
theorem Follows.loops_le (h : t.Follows r) (c : Cursor) :
    t (c, []) = traced (t.loops c) (r c) ∧ ∀ l ∈ t.loops c, l.count ≤ l.remaining := by
  obtain ⟨entered, ht, hentered⟩ := h c []
  have hloops : t.loops c = entered := by
    rw [loops, ht]
    cases r c <;> rfl
  rw [hloops]
  exact ⟨ht, hentered⟩

/-- A reader without loops is followed by itself. -/
theorem follows_plain (r : Reader ε α) : (plain r).Follows r :=
  fun c loops => ⟨[], by rw [List.append_nil]; rfl, nofun⟩

theorem follows_pure (a : α) : (pure a : Tracer ε α).Follows (pure a) :=
  follows_plain (pure a)

theorem follows_throw (stop : Stop ε) : (throw stop : Tracer ε α).Follows (throw stop) :=
  follows_plain (throw stop)

/-- Two tracers in a row follow two readers in a row. -/
theorem Follows.bind (h : t.Follows r) (h' : ∀ a, (f a).Follows (g a)) :
    (t >>= f).Follows (r >>= g) := by
  intro c loops
  obtain ⟨entered, ht, hentered⟩ := h c loops
  cases hr : r c with
  | error stop c' =>
    rw [hr] at ht
    refine ⟨entered, ?_, hentered⟩
    rw [Run.bind_of_error ht, Run.bind_of_error hr]
    rfl
  | ok a c' =>
    rw [hr] at ht
    -- The loops of the second part are listed behind those of the first.
    obtain ⟨entered', hf, hentered'⟩ := h' a c' (loops ++ entered)
    refine ⟨entered ++ entered', ?_, List.forall_mem_append.2 ⟨hentered, hentered'⟩⟩
    rw [Run.bind_of_ok ht, Run.bind_of_ok hr, hf, List.append_assoc]

/-- A repeated tracer follows a repeated reader. -/
theorem Follows.times (h : t.Follows r) (n : Nat) : (t.times n).Follows (r.times n) := by
  induction n with
  | zero => exact follows_pure []
  | succ n ih =>
    rw [Reader.times_succ]
    refine h.bind fun a => ?_
    rw [map_eq_pure_bind]
    exact ih.bind fun as => follows_pure _

/-- A loop that is entered where a count was let through has enough bytes behind it. -/
theorem follows_count {k : Nat} {f : Nat → Tracer ValueError β} {g : Nat → Reader ValueError β}
    (h : ∀ n, (f n).Follows (g n)) :
    (do let n ← plain ((readCount k).mapError ValueError.decode); enter n; f n).Follows
      ((readCount k).mapError ValueError.decode >>= g) := by
  intro c loops
  cases hcount : (readCount k).mapError ValueError.decode c with
  | error stop c' =>
    refine ⟨[], ?_, nofun⟩
    have hplain : plain ((readCount k).mapError ValueError.decode) (c, loops) =
        .error stop (c', loops) := congrArg (traced loops) hcount
    rw [Run.bind_of_error hplain, Run.bind_of_error hcount, List.append_nil]
    rfl
  | ok n c' =>
    have hplain : plain ((readCount k).mapError ValueError.decode) (c, loops) =
        .ok n (c', loops) := congrArg (traced loops) hcount
    -- This is the only place where a loop is listed, and the count has just been checked.
    have hle := readCount_le_remaining (Reader.mapError_eq_ok_iff.1 hcount)
    obtain ⟨entered, hf, hentered⟩ := h n c' (loops ++ [⟨n, c'.remaining⟩])
    refine ⟨⟨n, c'.remaining⟩ :: entered, ?_, List.forall_mem_cons.2 ⟨hle, hentered⟩⟩
    rw [Run.bind_of_ok hplain, Run.bind_of_ok hcount]
    refine Eq.trans hf ?_
    rw [List.append_assoc]
    rfl

end Tracer

open Tracer

/-! ### The readers of values as tracers -/

/-- Traces the reader of a value of a kind, where `message` traces messages. -/
def Kind.trace (s : Schema) (message : Message → Tracer ValueError Value) :
    Kind → Tracer ValueError Value
  | .primitive p => plain (p.read.mapError .decode)
  | .array element .counted => do
    let count ← plain ((readCount (s.minSize element)).mapError .decode)
    enter count
    let items ← (element.trace s message).times count
    return .array items
  | .array element (.fixed n) => do
    let c := (← get).1
    let needed := sizeMul n (s.minSize element)
    if c.remaining < needed then
      throw (.error (.decode (.truncated c.index needed c.remaining)))
    else if Value.maxCount < n then
      throw .fault
    else
      let items ← (element.trace s message).times n
      return .array items
  | .named name =>
    match s.resolve? name with
    | some (.enumeration e) => do
      let raw ← plain ((readUInt e.wireWidth).mapError .decode)
      return .enumeration e.name (UInt64.ofNat raw)
    | some (.message m) => message m
    | none => throw (.error (.unknownType name))
  | .unsupported text => throw (.error (.unknownType text))

/-- Traces the reader of fields. -/
def traceFields (trace : Kind → Tracer ValueError Value) :
    List Field → Tracer ValueError (List (String × Value))
  | [] => pure []
  | f :: rest => do
    let v ← trace f.kind
    let values ← traceFields trace rest
    return (f.name, v) :: values

/-- Traces the reader of a message with at most `depth` messages one inside the other. -/
def Message.traceWithin (s : Schema) : Nat → Message → Tracer ValueError Value
  | 0, _ => throw .exhausted
  | depth + 1, m => do
    let fields ← traceFields (Kind.trace s (Message.traceWithin s depth)) m.fields
    return .message m.name fields

/-- Traces the reader of a message. -/
def Value.traceMessage (s : Schema) (m : Message) : Tracer ValueError Value := do
  m.traceWithin s (s.depthBound (← get).1.data.size)

/-- The tracer of a kind follows its reader, if those of messages do. -/
theorem Kind.trace_follows {tracer : Message → Tracer ValueError Value}
    {message : Message → Reader ValueError Value} (h : ∀ m, (tracer m).Follows (message m))
    (kind : Kind) : (kind.trace s tracer).Follows (kind.read s message) := by
  induction kind with
  | primitive p => exact follows_plain _
  | array element len ih =>
    cases len with
    | counted => exact follows_count fun n => (ih.times n).bind fun items => follows_pure _
    | fixed n =>
      rw [Kind.trace, Kind.read]
      intro c loops
      rw [Run.get_bind, Run.get_bind]
      dsimp only
      split
      · exact follows_throw _ c loops
      · split
        · exact follows_throw _ c loops
        · exact (ih.times n).bind (fun items => follows_pure _) c loops
  | named name =>
    rw [Kind.trace, Kind.read]
    cases s.resolve? name with
    | none => exact follows_throw _
    | some type =>
      cases type with
      | enumeration e => exact (follows_plain _).bind fun raw => follows_pure _
      | message m => exact h m
  | unsupported text => exact follows_throw _

theorem traceFields_follows {trace : Kind → Tracer ValueError Value}
    {read : Kind → Reader ValueError Value} (h : ∀ kind, (trace kind).Follows (read kind))
    (fields : List Field) : (traceFields trace fields).Follows (readFields read fields) := by
  induction fields with
  | nil => exact follows_pure []
  | cons f fields ih => exact (h f.kind).bind fun v => ih.bind fun values => follows_pure _

/-- The tracer of a message follows its reader under every bound on the depth. -/
theorem Message.traceWithin_follows (depth : Nat) (m : Message) :
    (m.traceWithin s depth).Follows (m.readWithin s depth) := by
  induction depth generalizing m with
  | zero => exact follows_throw _
  | succ depth ih =>
    exact (traceFields_follows (Kind.trace_follows ih) m.fields).bind fun fields => follows_pure _

namespace Value

/-- The elements in the counted arrays of a message, at all depths together, are not more than the
    bytes that it was read from; and in every run, also one that fails later, loops over counts are
    entered only with counts that are not more than the bytes behind them. -/
theorem counts_le {m : Message} (hm : m ∈ s.messages) (c : Cursor) :
    (∀ v c', c.index ≤ c.data.size → readMessage s m c = .ok v c' →
      v.counted s (.named m.name) ≤ c'.index - c.index) ∧
    traceMessage s m (c, []) = traced ((traceMessage s m).loops c) (readMessage s m c) ∧
    ∀ l ∈ (traceMessage s m).loops c, l.count ≤ l.remaining := by
  have htrace : (traceMessage s m).Follows (readMessage s m) :=
    fun c loops => m.traceWithin_follows _ c loops
  exact ⟨fun _ _ hc h => counted_le_of_readMessage hm hc h, htrace.loops_le c⟩

/-- A tree with a child, of 16 bytes, and a byte behind it. -/
def smallTree : ByteArray :=
  ⟨#[7, 0, 0, 0, 1, 0, 0, 0, 5, 0, 0, 0, 0, 0, 0, 0, 255]⟩

/-- A tree that announces two children. The first has a child of its own, and then the data ends. -/
def brokenTree : ByteArray :=
  ⟨#[7, 0, 0, 0, 2, 0, 0, 0, 5, 0, 0, 0, 1, 0, 0, 0, 1, 0, 0, 0, 0, 0, 0, 0]⟩

/-- A whole tree has few counted elements, and a broken one enters a loop for each count it has. -/
theorem counts_le_trees :
    let tree := traceMessage Game.schema Game.Decl.treeNode
    (∃ v c, readMessage Game.schema Game.Decl.treeNode (.start smallTree) = .ok v c ∧
      c.index = 16 ∧ v.counted Game.schema (.named "TreeNode") ≤ 16) ∧
    (tree.loops (.start brokenTree)).map Loop.count = [2, 1, 0] ∧
    ∀ l ∈ tree.loops (.start brokenTree), l.count ≤ l.remaining := by
  intro tree
  have hmem : Game.Decl.treeNode ∈ Game.schema.messages := by
    simp [Schema.messages, Game.schema, Game.model]
  have hread : (readMessage Game.schema Game.Decl.treeNode).succeeds (.start smallTree)
      (fun _ c => c.index == 16) = true := by decide +kernel
  obtain ⟨v, c, hv, hindex⟩ := Reader.exists_of_succeeds hread
  have hcounted := (counts_le hmem (.start smallTree)).1 v c (Nat.zero_le _) hv
  rw [eq_of_beq hindex] at hcounted
  exact ⟨⟨v, c, hv, eq_of_beq hindex, hcounted⟩, by decide +kernel,
    (counts_le hmem (.start brokenTree)).2.2⟩

end Value

end WireSchema
