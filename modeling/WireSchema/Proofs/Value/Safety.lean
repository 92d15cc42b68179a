import WireSchema.Proofs.Game.Schema
import WireSchema.Proofs.Value.Layout
import WireSchema.Proofs.Wire.Failure

/-!
# Any data can be read safely

Reading a message from any place of any data gives a value or an error of decoding, and nothing else
(`Value.readMessage_safe`): a name of a schema always stands for something, no slice is taken past
the end, and the bound on the nesting never runs out.

Two laws of the wire layer are carried over to dynamic readers. All of them are steady, whatever
they read and however deep they may go (`Kind.read_steady`). How a kind can fail is `Kind.Failure`:
besides by an error of the data, by a name or a length that a schema does not let through. If it may
nest deep enough (`Deep`), a kind fails in no other way (`Kind.read_fails`), and a message of a
schema fails by errors of the data only (`Message.readWithin_fails`).
-/

namespace WireSchema

open Reader

variable {s : Schema}

/-! ## Steadiness -/

/-- Does the error say that bytes are missing? -/
def ValueError.isShort : ValueError → Bool
  | decode e => e.isShort
  | _ => false

/-- Of the errors of values, only those of decoding say that bytes are missing. -/
theorem ValueError.exists_of_isShort {err : ValueError} (h : err.isShort = true) :
    ∃ e, err = .decode e ∧ e.isShort = true := by
  unfold ValueError.isShort at h
  split at h
  · next e => exact ⟨e, rfl, h⟩
  · cases h

theorem Reader.Steady.mapDecode {α : Type} {r : Reader DecodeError α}
    (h : r.Steady DecodeError.isShort) :
    (r.mapError ValueError.decode).Steady ValueError.isShort :=
  h.mapError fun _ => rfl

/-- Primitive types are read steadily. -/
theorem Primitive.read_steady (p : Primitive) : p.read.Steady DecodeError.isShort := by
  cases p with
  | int t =>
    rw [Primitive.read]
    split
    · exact (readInt_steady _).map _
    · exact (readUInt_steady _).map _
  | single => exact (((readUInt_steady .w32).map _).map _).map _
  | double => exact (((readUInt_steady .w64).map _).map _).map _
  | bool => exact readBool_steady.map _
  | string => exact readString_steady.map _

/-- A kind is read steadily if messages are. -/
theorem Kind.read_steady {message : Message → Reader ValueError Value}
    (hmessage : ∀ m, (message m).Steady ValueError.isShort) (kind : Kind) :
    (kind.read s message).Steady ValueError.isShort := by
  induction kind with
  | primitive p => exact p.read_steady.mapDecode
  | array element len ih =>
    cases len with
    | counted =>
      exact (readCount_steady _).mapDecode.bind fun n =>
        (ih.times n).bind fun _ => steady_pure _
    | fixed n =>
      rw [Kind.read]
      refine steady_demand (fun _ => rfl) ?_
      split
      · exact steady_throw _
      · exact (ih.times n).bind fun _ => steady_pure _
  | named name =>
    rw [Kind.read]
    split
    · exact (readUInt_steady _).mapDecode.bind fun _ => steady_pure _
    · exact hmessage _
    · exact steady_throw _
  | unsupported text => exact steady_throw _

theorem readFields_steady {read : Kind → Reader ValueError Value}
    (hread : ∀ kind, (read kind).Steady ValueError.isShort) (fields : List Field) :
    (readFields read fields).Steady ValueError.isShort := by
  induction fields with
  | nil => exact steady_pure []
  | cons f fields ih => exact (hread f.kind).bind fun _ => ih.bind fun _ => steady_pure _

/-- Messages are read steadily under every bound on the depth. -/
theorem Message.readWithin_steady (depth : Nat) (m : Message) :
    (m.readWithin s depth).Steady ValueError.isShort := by
  induction depth generalizing m with
  | zero => exact steady_throw _
  | succ depth ih =>
    exact (readFields_steady (Kind.read_steady ih) m.fields).bind fun _ => steady_pure _

theorem Kind.read_forward (depth : Nat) (kind : Kind) :
    (kind.read s (Message.readWithin s depth)).Forward :=
  (Kind.read_steady (Message.readWithin_steady depth) kind).toForward

/-! ## Failures -/

/-- How reading a kind can fail from a cursor. -/
inductive Kind.Failure (s : Schema) (kind : Kind) (c : Cursor) : Stop ValueError → Prop
  /-- The data is not what is to be read. -/
  | decode {e : DecodeError} (h : e.ReportedFrom c) : Failure s kind c (.error (.decode e))
  /-- A name of the kind stands for nothing. -/
  | unresolved {name : String} (hname : .named name ∈ kind.parts) (h : s.resolve? name = none) :
      Failure s kind c (.error (.unknownType name))
  /-- A part of the kind cannot be on the wire. -/
  | unsupported {text : String} (h : .unsupported text ∈ kind.parts) :
      Failure s kind c (.error (.unknownType text))
  /-- A fixed length is more than memory holds. -/
  | tooLong {element : Kind} {n : Nat} (h : .array element (.fixed n) ∈ kind.parts)
      (hn : Value.maxCount < n) : Failure s kind c .fault

namespace Kind.Failure

variable {kind element : Kind} {c c' : Cursor} {stop : Stop ValueError}

/-- A report of decoding is a failure of any kind. -/
theorem of_reports (h : Reports .decode c stop) : kind.Failure s c stop := by
  cases h with
  | error h => exact .decode h

/-- A failure further on is one from here. -/
theorem back (hmoves : c.Moves c') (h : kind.Failure s c' stop) : kind.Failure s c stop := by
  cases h with
  | decode h => exact .decode (h.back hmoves)
  | unresolved hname h => exact .unresolved hname h
  | unsupported h => exact .unsupported h
  | tooLong h hn => exact .tooLong h hn

/-- What an element can fail with, its array can. -/
theorem of_element {len : ArrayLen} (h : element.Failure s c stop) :
    (Kind.array element len).Failure s c stop := by
  cases h with
  | decode h => exact .decode h
  | unresolved hname h => exact .unresolved (List.mem_cons_of_mem _ hname) h
  | unsupported h => exact .unsupported (List.mem_cons_of_mem _ h)
  | tooLong h hn => exact .tooLong (List.mem_cons_of_mem _ h) hn

/-- No failure is for want of depth. -/
theorem ne_exhausted (h : kind.Failure s c stop) : stop ≠ .exhausted := by
  cases h <;> nofun

end Kind.Failure

/-- A name that occurs in a kind is its innermost part. -/
theorem Kind.base_eq_of_named_mem_parts {kind : Kind} {name : String}
    (h : .named name ∈ kind.parts) : kind.base = .named name := by
  induction kind with
  | array element len ih =>
    rcases List.mem_cons.1 h with h | h
    · cases h
    · exact ih h
  | primitive | named | unsupported => exact (List.mem_singleton.1 h).symm

/-- The kind of a field of a schema fails by errors of the data only. -/
theorem Kind.Failure.reports {m : Message} (hm : m ∈ s.messages) {f : Field} (hf : f ∈ m.fields)
    {c : Cursor} {stop : Stop ValueError} (h : f.kind.Failure s c stop) :
    Reports .decode c stop := by
  have hadmits := Schema.admits_of_mem hm hf
  cases h with
  | decode h => exact .error h
  | unresolved hname h =>
    have hbase := Kind.base_eq_of_named_mem_parts hname
    rcases s.wellFormed.bases_known m hm f hf with ⟨p, hp⟩ | ⟨name', hname', hdefines⟩
    · cases hbase.symm.trans hp
    · cases hbase.symm.trans hname'
      exact absurd h (Schema.resolve?_isSome hdefines)
  | unsupported h => exact (hadmits.supported _ h).elim
  | tooLong h hn =>
    have hlen := (hadmits.supported _ h).2
    exact absurd (Nat.le_trans hlen maxFixedLen_le_maxCount) (Nat.not_le.2 hn)

/-- Reading a primitive type fails with a report of decoding. -/
theorem Primitive.read_fails (p : Primitive) {n : Nat} : p.read.Fails n (Reports id) := by
  cases p with
  | int t =>
    rw [Primitive.read]
    split
    · exact (readInt_fails _).map _
    · exact (readUInt_fails _).map _
  | single => exact (((readUInt_fails .w32).map _).map _).map _
  | double => exact (((readUInt_fails .w64).map _).map _).map _
  | bool => exact readBool_fails.map _
  | string => exact readString_fails.map _

section

variable {rank : String → Nat} {depth : Nat}

/-- A kind fails in the known ways if messages that may nest deep enough do. -/
theorem Kind.read_fails (hrank : s.IsRanking rank)
    (hmessage : ∀ m ∈ s.messages, ∀ n, Deep s rank (.named m.name) n depth →
      (m.readWithin s depth).Fails n (Reports .decode))
    (kind : Kind) {n : Nat} (hdeep : Deep s rank kind n depth) :
    (kind.read s (Message.readWithin s depth)).Fails n (kind.Failure s) := by
  induction kind generalizing n with
  | primitive p => exact p.read_fails.mapError.mono fun _ _ => .of_reports
  | array element len ih =>
    have hforward := Kind.read_forward (s := s) depth element
    cases len with
    | counted =>
      intro c stop c' hc h
      rw [Kind.read] at h
      rcases Run.bind_eq_error_iff.1 h with h | ⟨count, c₁, hcount, h⟩
      · exact .of_reports ((readCount_fails _).mapError hc h)
      · -- The count has taken bytes, so the elements may nest as deep as what is left asks for.
        have hcount := mapError_eq_ok_iff.1 hcount
        have hrem := readCount_remaining hcount
        have helement := ih (hdeep.counted_element hrank (show c₁.remaining < n by omega))
        rcases Run.bind_eq_error_iff.1 h with h | ⟨items, c₂, -, h⟩
        · have hfailure := helement.times (fun _ _ _ => .back) hforward count (Nat.le_refl _) h
          exact hfailure.of_element.back ((readCount_steady _).ok hcount)
        · cases h
    | fixed k =>
      intro c stop c' hc h
      rw [Kind.read, Run.get_bind] at h
      split at h
      · next hrem =>
        cases h
        exact .decode (DecodeError.reportedFrom_of_offset_eq rfl hrem)
      · split at h
        · next hlong =>
          cases h
          exact .tooLong List.mem_cons_self hlong
        · rcases Run.bind_eq_error_iff.1 h with h | ⟨items, c₂, -, h⟩
          · exact ((ih hdeep.fixed_element).times (fun _ _ _ => .back) hforward k hc h).of_element
          · cases h
  | named name =>
    rw [Kind.read]
    split
    · exact ((readUInt_fails _).mapError.map _).mono fun _ _ => .of_reports
    · next m hm =>
      obtain ⟨hmem, rfl⟩ := Schema.mem_of_resolve? hm
      exact (hmessage m hmem n hdeep).mono fun _ _ => .of_reports
    · next hnone =>
      intro c stop c' _ h
      cases h
      exact .unresolved List.mem_cons_self hnone
  | unsupported text =>
    intro c stop c' _ h
    cases h
    exact .unsupported List.mem_cons_self

/-- Reading fields fails as one of them does, at or behind the start. -/
theorem readFields_fails {read : Kind → Reader ValueError Value} {n : Nat} {fields : List Field}
    (hread : ∀ f ∈ fields, (read f.kind).Fails n (Reports .decode))
    (hforward : ∀ kind, (read kind).Forward) :
    (readFields read fields).Fails n (Reports .decode) := by
  induction fields with
  | nil => exact fails_pure []
  | cons f fields ih =>
    obtain ⟨hf, hfields⟩ := List.forall_mem_cons.1 hread
    exact hf.bind (fun _ _ _ => .back) (hforward f.kind) fun _ => (ih hfields).map _

/-- A message that may nest deep enough fails by errors of the data only. -/
theorem Message.readWithin_fails (hrank : s.IsRanking rank) {m : Message} (hm : m ∈ s.messages)
    {n : Nat} (hdeep : Deep s rank (.named m.name) n depth) :
    (m.readWithin s depth).Fails n (Reports .decode) := by
  induction depth generalizing m n with
  | zero => exact absurd (hdeep.inline m hm (.named _)) (Nat.not_lt_zero _)
  | succ depth ih =>
    -- Its fields store only messages of lower rank, so one level less is enough for them.
    have hfields : ∀ f ∈ m.fields,
        (f.kind.read s (Message.readWithin s depth)).Fails n (Reports .decode) := fun f hf =>
      (Kind.read_fails hrank (fun m hm n hdeep => ih hm hdeep) f.kind
        (hdeep.field hrank hm hf)).mono fun _ _ h => h.reports hm hf
    exact (readFields_fails hfields (Kind.read_forward depth)).map _

end

namespace Value

/-- Any kind, whether the schema has it or not, fails in the known ways from any place. -/
theorem readField_failure {kind : Kind} {c c' : Cursor} {stop : Stop ValueError}
    (h : readField s kind c = .error stop c') : kind.Failure s c stop := by
  obtain ⟨rank, hrank⟩ := s.exists_isRanking
  rw [readField, Run.get_bind] at h
  exact Kind.read_fails hrank (fun m hm n hdeep => Message.readWithin_fails hrank hm hdeep) kind
    (.of_depthBound hrank kind (Nat.sub_le _ _)) (Nat.le_refl _) h

/-- Reading a message fails with a report of decoding and in no other way. -/
theorem readMessage_reports {m : Message} (hm : m ∈ s.messages) {c c' : Cursor}
    {stop : Stop ValueError} (h : readMessage s m c = .error stop c') : Reports .decode c stop := by
  obtain ⟨rank, hrank⟩ := s.exists_isRanking
  rw [readMessage, Run.get_bind] at h
  exact Message.readWithin_fails hrank hm (.of_depthBound hrank _ (Nat.sub_le _ _))
    (Nat.le_refl _) h

/-- A frame has an unknown identifier exactly if the schema has no message for it. -/
theorem decodeFrame_eq_unknownId_iff {id : UInt32} {b : ByteArray} :
    decodeFrame s id b = .error (.error (.unknownId id)) ↔ s.messageById? id = none := by
  rw [decodeFrame]
  cases hfind : s.messageById? id with
  | none => exact iff_of_true rfl rfl
  | some m =>
    refine iff_of_false (fun h => ?_) (Option.some_ne_none m)
    obtain ⟨c, hc⟩ := result_eq_error_iff.1 h
    -- The message is one of the schema, so it fails by errors of the data only.
    cases readMessage_reports ((lookUp?_eq_some hfind).1) hc

/-- From any place of any data, reading a message ends with a value or with an error of decoding.
    The cursor stays inside of the data, or where it is if it starts past the end, and errors about
    missing bytes tell a position from the start on and an amount that is really missing. -/
theorem readMessage_safe {m : Message} (hm : m ∈ s.messages) (c : Cursor) :
    ∃ c' : Cursor, c'.data = c.data ∧
      ((∃ v, readMessage s m c = .ok v c') ∨
        ∃ e : DecodeError, readMessage s m c = .error (.error (.decode e)) c' ∧
          (c.index ≤ c.data.size → ∀ offset needed remaining,
            e = .truncated offset needed remaining ∨ e = .lengthOverrun offset needed remaining →
              c.index ≤ offset ∧ offset ≤ c.data.size ∧ remaining < needed)) ∧
      (c.index ≤ c.data.size → c.index ≤ c'.index ∧ c'.index ≤ c.data.size) ∧
      (c.data.size < c.index → c'.index = c.index) := by
  have hsteady : (readMessage s m).Forward :=
    ⟨fun c _ _ h => (Message.readWithin_steady (s.depthBound c.data.size) m).ok h,
      fun c _ _ h => (Message.readWithin_steady (s.depthBound c.data.size) m).error h⟩
  -- From inside the data the cursor stays inside, and from behind the end it does not move.
  have hplace : ∀ {c'}, c.Moves c' → (c.index ≤ c.data.size → c.index ≤ c'.index ∧
      c'.index ≤ c.data.size) ∧ (c.data.size < c.index → c'.index = c.index) := by
    intro c' hmoves
    have := hmoves.le
    have := hmoves.le_max
    omega
  cases h : readMessage s m c with
  | ok v c' =>
    have hmoves := hsteady.ok h
    exact ⟨c', hmoves.data_eq, .inl ⟨v, rfl⟩, hplace hmoves⟩
  | error stop c' =>
    have hmoves := hsteady.error h
    obtain ⟨hreported⟩ := readMessage_reports hm h
    refine ⟨c', hmoves.data_eq, .inr ⟨_, rfl, fun hc offset needed remaining he => ?_⟩,
      hplace hmoves⟩
    obtain ⟨hle, hmax, hasks⟩ := hreported
    rcases he with rfl | rfl <;> exact ⟨hle, by rwa [Nat.max_eq_right hc] at hmax, hasks⟩

/-- A tree with a count of children that no data holds, and a byte behind it. -/
def hostileTree : ByteArray :=
  ⟨#[7, 0, 0, 0, 255, 255, 255, 255, 1]⟩

/-- The count is refused within the data, and behind its end the cursor does not move. -/
theorem readMessage_safe_hostileTree :
    (∃ e c', readMessage Game.schema Game.Decl.treeNode ⟨hostileTree, 0⟩ =
        .error (.error (.decode e)) c' ∧ c'.index ≤ 9 ∧
      ∀ offset needed remaining,
        e = .truncated offset needed remaining ∨ e = .lengthOverrun offset needed remaining →
          offset ≤ 9 ∧ remaining < needed) ∧
    ∃ e c', readMessage Game.schema Game.Decl.treeNode ⟨hostileTree, 20⟩ =
      .error (.error (.decode e)) c' ∧ c'.index = 20 := by
  have hm : Game.Decl.treeNode ∈ Game.schema.messages := by
    simp [Schema.messages, Game.schema, Game.model]
  have hrefused : ∀ i, i = 0 ∨ i = 20 → (readMessage Game.schema Game.Decl.treeNode).succeeds
      ⟨hostileTree, i⟩ (fun _ _ => true) = false := by
    rintro _ (rfl | rfl) <;> decide +kernel
  refine ⟨?_, ?_⟩
  · obtain ⟨c', -, ⟨v, hv⟩ | ⟨e, he, hshort⟩, hinside, -⟩ := readMessage_safe hm ⟨hostileTree, 0⟩
    · have hfalse := hrefused 0 (.inl rfl)
      rw [Reader.succeeds, hv] at hfalse
      cases hfalse
    · refine ⟨e, c', he, (hinside (Nat.zero_le _)).2, fun offset needed remaining heq => ?_⟩
      exact (hshort (Nat.zero_le _) offset needed remaining heq).2
  · obtain ⟨c', -, ⟨v, hv⟩ | ⟨e, he, -⟩, -, houtside⟩ := readMessage_safe hm ⟨hostileTree, 20⟩
    · have hfalse := hrefused 20 (.inr rfl)
      rw [Reader.succeeds, hv] at hfalse
      cases hfalse
    · exact ⟨e, c', he, houtside (by decide)⟩

end Value

end WireSchema
