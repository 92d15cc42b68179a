import WireSchema.Proofs.Wire.Failure
import WireSchema.Value.Decode

/-!
# Reading from any cursor

A cursor may stand anywhere, also past the end of its data. From there, as from everywhere else, the
operations of reading are *orderly* (`Reader.Orderly`): they fail with an error of decoding and in
no other way, they take the cursor forward and not beyond the end, and where they succeed, they do
the same on all data that has the bytes they went over. Sequences and arrays may be read with any
reader of their elements that is orderly itself.

One operation is not among them. An empty slice can be asked for where nothing remains, so the test
for missing bytes lets it pass, and past the end of the data it is a fault.
-/

namespace WireSchema

namespace Reader

variable {ε ε' α β : Type}

/-! ## The law -/

/-- The reader stops with an error if it stops early, the cursor goes forward, and a success is
    repeated on data that is at least as long and has the same bytes up to where the cursor went. If
    that is past the end, these are all bytes there are. -/
structure Orderly (r : Reader ε α) : Prop extends Forward r where
  stop_eq : ∀ ⦃c : Cursor⦄ ⦃s : Stop ε⦄ ⦃c' : Cursor⦄, r c = .error s c' → ∃ e, s = .error e
  ok_agrees : ∀ ⦃c : Cursor⦄ ⦃a : α⦄ ⦃c' : Cursor⦄ ⦃d : ByteArray⦄, r c = .ok a c' →
    Agrees c.data d (min c'.index c.data.size) → r ⟨d, c.index⟩ = .ok a ⟨d, c'.index⟩

variable {r : Reader ε α} {f : α → Reader ε β}

theorem orderly_pure (a : α) : (pure a : Reader ε α).Orderly where
  ok := by
    intro c b c' h
    cases h
    exact .refl c
  error := fun _ _ _ h => nomatch h
  stop_eq := fun _ _ _ h => nomatch h
  ok_agrees := by
    intro c b c' d h _
    cases h
    rfl

/-- Two orderly readers in a row are orderly. -/
theorem Orderly.bind (hr : r.Orderly) (hf : ∀ a, (f a).Orderly) : (r >>= f).Orderly where
  toForward := hr.toForward.bind fun a => (hf a).toForward
  stop_eq := by
    intro c s c'' h
    rcases Run.bind_eq_error_iff.1 h with hs | ⟨a, c', -, hs⟩
    · exact hr.stop_eq hs
    · exact (hf a).stop_eq hs
  ok_agrees := by
    intro c b c'' d h hd
    obtain ⟨a, c', ha, hb⟩ := Run.bind_eq_ok_iff.1 h
    -- The first reader did not go further than the second.
    have hle : min c'.index c.data.size ≤ min c''.index c.data.size := by
      have := ((hf a).ok hb).le
      omega
    rw [Run.bind_of_ok (hr.ok_agrees ha (hd.mono hle))]
    rw [← (hr.ok ha).data_eq] at hd
    exact (hf a).ok_agrees hb hd

theorem Orderly.map (hr : r.Orderly) (g : α → β) : (g <$> r).Orderly := by
  rw [map_eq_pure_bind]
  exact hr.bind fun _ => orderly_pure _

theorem Orderly.mapError (hr : r.Orderly) (g : ε → ε') : (r.mapError g).Orderly where
  ok := fun _ _ _ h => hr.ok (mapError_eq_ok_iff.1 h)
  error := by
    intro c s c' h
    obtain ⟨s', hs', -⟩ := mapError_eq_error_iff.1 h
    exact hr.error hs'
  stop_eq := by
    intro c s c' h
    obtain ⟨s', hs', rfl⟩ := mapError_eq_error_iff.1 h
    obtain ⟨e, rfl⟩ := hr.stop_eq hs'
    exact ⟨g e, rfl⟩
  ok_agrees := fun _ _ _ _ h hd => mapError_of_ok (hr.ok_agrees (mapError_eq_ok_iff.1 h) hd)

/-- A repeated reader is orderly if it is so once. -/
theorem Orderly.times (hr : r.Orderly) (n : Nat) : (r.times n).Orderly := by
  induction n with
  | zero => exact orderly_pure []
  | succ n ih =>
    rw [times_succ]
    exact hr.bind fun _ => ih.map _

theorem Orderly.readArray (hr : r.Orderly) (n : Nat) : (readArray r n).Orderly := by
  induction n with
  | zero => exact orderly_pure _
  | succ n ih => exact ih.bind fun _ => hr.bind fun _ => orderly_pure _

/-- A steady reader whose errors are reported is orderly if it never succeeds past the end. -/
theorem Steady.orderly {short : ε → Bool} {g : DecodeError → ε} (hr : r.Steady short)
    (hfails : ∀ n, r.Fails n (Reports g))
    (hinside : ∀ ⦃c : Cursor⦄ ⦃a : α⦄ ⦃c' : Cursor⦄, r c = .ok a c' → c.index ≤ c.data.size) :
    r.Orderly where
  toForward := hr.toForward
  stop_eq := by
    intro c s c' h
    cases hfails _ (Nat.le_refl _) h with
    | error _ => exact ⟨_, rfl⟩
  ok_agrees := by
    intro c a c' d h hd
    have hle : c'.index ≤ c.data.size := by
      have := hinside h
      have := (hr.ok h).le_max
      omega
    rw [Nat.min_eq_left hle] at hd
    exact hr.ok_agrees h hd

/-- Bytes behind the data change nothing where the reader succeeds without them. -/
theorem Orderly.ok_append (hr : r.Orderly) {d : ByteArray} {i : Nat} {a : α} {c' : Cursor}
    (h : r ⟨d, i⟩ = .ok a c') (tail : ByteArray) :
    r ⟨d ++ tail, i⟩ = .ok a ⟨d ++ tail, c'.index⟩ := by
  have hagrees := Agrees.extract (d ++ tail) (Nat.min_le_right c'.index d.size)
  rw [ByteArray.extract_append_eq_left rfl] at hagrees
  exact hr.ok_agrees h hagrees

/-- The reader takes `k` bytes if there are as many, and leaves the cursor where it is if not. -/
structure TakesExactly (r : Reader ε α) (k : Nat) : Prop where
  ok_iff : ∀ c : Cursor, (∃ a c', r c = .ok a c') ↔ k ≤ c.remaining
  ok_eq : ∀ ⦃c : Cursor⦄ ⦃a : α⦄ ⦃c' : Cursor⦄, r c = .ok a c' → c' = ⟨c.data, c.index + k⟩
  error_eq : ∀ ⦃c : Cursor⦄ ⦃s : Stop ε⦄ ⦃c' : Cursor⦄, r c = .error s c' → c' = c

end Reader

/-! ## Readers of fixed width -/

open Reader

variable {ε α : Type}

/-- The readers that take a fixed number of bytes: those of numbers, lengths and enums. -/
inductive FixedWidth : {α : Type} → Reader DecodeError α → Nat → Prop
  | u8 : FixedWidth readU8 1
  | u16 : FixedWidth readU16 2
  | u32 : FixedWidth readU32 4
  | u64 : FixedWidth readU64 8
  | i8 : FixedWidth readI8 1
  | i16 : FixedWidth readI16 2
  | i32 : FixedWidth readI32 4
  | i64 : FixedWidth readI64 8
  | single : FixedWidth readSingle 4
  | double : FixedWidth readDouble 8
  | uint (w : Width) : FixedWidth (readUInt w) w.bytes
  | int (w : Width) : FixedWidth (readInt w) w.bytes
  | len : FixedWidth readLen 4
  | enumeration (α : Type) [WireEnum α] :
      FixedWidth (OpenEnum.read α) (WireEnum.width α).bytes

/-- The reader makes its value from `k` bytes. -/
def IsOfBytes (r : Reader DecodeError α) (k : Nat) : Prop :=
  ∃ f : ByteArray → α, r = f <$> readBytes k

theorem IsOfBytes.map {β : Type} {r : Reader DecodeError α} {k : Nat} (h : IsOfBytes r k)
    (g : α → β) : IsOfBytes (g <$> r) k := by
  obtain ⟨f, rfl⟩ := h
  exact ⟨fun bytes => g (f bytes), (comp_map f g _).symm⟩

theorem readUInt_isOfBytes (w : Width) : IsOfBytes (readUInt w) w.bytes :=
  ⟨fun bytes => leValue bytes.data.toList, (map_eq_pure_bind _ _).symm⟩

theorem readInt_isOfBytes (w : Width) : IsOfBytes (readInt w) w.bytes :=
  ⟨fun bytes => leValueInt bytes.data.toList, (map_eq_pure_bind _ _).symm⟩

namespace FixedWidth

variable {r : Reader DecodeError α} {k : Nat}

theorem isOfBytes (h : FixedWidth r k) : 0 < k ∧ IsOfBytes r k := by
  cases h with
  | u8 | u16 | u32 | u64 => exact ⟨by decide, (readUInt_isOfBytes _).map _⟩
  | i8 | i16 | i32 | i64 => exact ⟨by decide, (readInt_isOfBytes _).map _⟩
  | single | double => exact ⟨by decide, ((readUInt_isOfBytes _).map _).map _⟩
  | uint w => exact ⟨w.bytes_pos, readUInt_isOfBytes w⟩
  | int w => exact ⟨w.bytes_pos, readInt_isOfBytes w⟩
  | len => exact ⟨by decide, readUInt_isOfBytes .w32⟩
  | enumeration α =>
    refine ⟨Width.bytes_pos _, ?_⟩
    rw [OpenEnum.read, bind_pure_comp]
    exact (readUInt_isOfBytes _).map _

end FixedWidth

theorem readBytes_orderly {k : Nat} (hk : 0 < k) : (readBytes k).Orderly :=
  (readBytes_steady k).orderly (fun _ => readBytes_fails hk)
    fun _ _ _ h => (readBytes_eq_ok_iff.1 h).2.start_le

/-- Past the end nothing remains, so what needs a byte is refused there as truncated. -/
theorem readBytes_map_apply {k : Nat} (hk : 0 < k) (f : ByteArray → α) (c : Cursor) :
    (f <$> readBytes k) c =
      if c.remaining < k then .error (.error (.truncated c.index k c.remaining)) c
      else .ok (f (c.data.extract c.index (c.index + k))) ⟨c.data, c.index + k⟩ := by
  have happly := readBytes_apply k c
  split
  · next hrem =>
    rw [if_pos hrem] at happly
    exact Run.map_of_error happly f
  · next hrem =>
    have hinside : ¬c.data.size < c.index := by
      rw [Cursor.remaining] at hrem
      omega
    rw [if_neg hrem, if_neg hinside] at happly
    exact Run.map_of_ok happly f

namespace FixedWidth

variable {r : Reader DecodeError α} {k : Nat}

theorem orderly (h : FixedWidth r k) : r.Orderly := by
  obtain ⟨hk, f, rfl⟩ := h.isOfBytes
  exact (readBytes_orderly hk).map f

/-- A reader of a fixed width takes exactly that many bytes. -/
theorem takesExactly (h : FixedWidth r k) : r.TakesExactly k := by
  obtain ⟨hk, f, rfl⟩ := h.isOfBytes
  refine ⟨fun c => ?_, fun c a c' h => ?_, fun c s c' h => ?_⟩
  all_goals by_cases hrem : c.remaining < k
  · rw [readBytes_map_apply hk, if_pos hrem]
    exact ⟨fun ⟨_, _, h⟩ => (nomatch h), fun h => absurd hrem (Nat.not_lt.2 h)⟩
  · rw [readBytes_map_apply hk, if_neg hrem]
    exact ⟨fun _ => Nat.not_lt.1 hrem, fun _ => ⟨_, _, rfl⟩⟩
  · rw [readBytes_map_apply hk, if_pos hrem] at h
    cases h
  · rw [readBytes_map_apply hk, if_neg hrem] at h
    cases h
    rfl
  · rw [readBytes_map_apply hk, if_pos hrem] at h
    cases h
    rfl
  · rw [readBytes_map_apply hk, if_neg hrem] at h
    cases h

/-- Where a number was read, the cursor was inside of the data. -/
theorem index_le (h : FixedWidth r k) {c c' : Cursor} {a : α} (hok : r c = .ok a c') :
    c.index ≤ c.data.size := by
  have hk := h.isOfBytes.1
  have hle := (h.takesExactly.ok_iff c).1 ⟨a, c', hok⟩
  rw [Cursor.remaining] at hle
  omega

end FixedWidth

/-! ## Readers of varying width -/

theorem readBool_orderly : readBool.Orderly := by
  refine readBool_steady.orderly (fun _ => readBool_fails) fun c b c' h => ?_
  rw [readBool, Run.get_bind] at h
  obtain ⟨byte, c₁, hbyte, -⟩ := Run.bind_eq_ok_iff.1 h
  exact FixedWidth.u8.index_le hbyte

/-- A text is read in an orderly way, though its length is read first and its bytes later. -/
theorem readString_orderly : readString.Orderly := by
  refine readString_steady.orderly (fun _ => readString_fails) fun c s c' h => ?_
  rw [readString_apply] at h
  obtain ⟨len, c₁, hlen, -⟩ := Run.bind_eq_ok_iff.1 h
  exact FixedWidth.len.index_le hlen

theorem readCount_orderly (minSize : Nat) : (readCount minSize).Orderly :=
  (readCount_steady minSize).orderly (fun _ => readCount_fails minSize)
    fun _ _ _ h => FixedWidth.len.index_le (readCount_eq_ok_iff.1 h).1

/-- Reads a sequence whose elements have errors of their own, among them those of the count. -/
def readSeqAs (of : DecodeError → ε) (minSize : Nat) (element : Reader ε α) :
    Reader ε (List α) := do
  let count ← (readCount minSize).mapError of
  element.times count

theorem readSeqAs_orderly (of : DecodeError → ε) (minSize : Nat) {element : Reader ε α}
    (h : element.Orderly) : (readSeqAs of minSize element).Orderly :=
  ((readCount_orderly minSize).mapError of).bind fun count => h.times count

/-- Counted arrays of values are such sequences. -/
theorem Kind.read_counted (s : Schema) (message : Message → Reader ValueError Value)
    (element : Kind) :
    (Kind.array element .counted).read s message =
      Value.array <$> readSeqAs .decode (s.minSize element) (element.read s message) := by
  rw [Kind.read, readSeqAs, map_bind]
  rfl

theorem readSeq_orderly (minSize : Nat) {element : Reader DecodeError α} (h : element.Orderly) :
    (readSeq minSize element).Orderly :=
  (readCount_orderly minSize).bind fun count => h.times count

/-! ## All operations -/

/-- The operations of reading, other than asking for no bytes. -/
inductive ReadOperation : {ε α : Type} → Reader ε α → Prop
  | bytes {n : Nat} : 0 < n → ReadOperation (readBytes n)
  | fixed {α : Type} {r : Reader DecodeError α} {k : Nat} : FixedWidth r k → ReadOperation r
  | bool : ReadOperation readBool
  | string : ReadOperation readString
  | seq {α : Type} (minSize : Nat) {element : Reader DecodeError α} :
      element.Orderly → ReadOperation (readSeq minSize element)
  | seqAs {ε α : Type} (of : DecodeError → ε) (minSize : Nat) {element : Reader ε α} :
      element.Orderly → ReadOperation (readSeqAs of minSize element)
  | array {ε α : Type} {element : Reader ε α} (n : Nat) :
      element.Orderly → ReadOperation (readArray element n)

/-- From any cursor, the operations of reading are orderly, those of fixed width take their bytes as
    a whole or leave the cursor where it is, and asking for no bytes is a fault exactly past the end
    of the data. -/
theorem readOperation_orderly :
    (∀ {ε α : Type} {r : Reader ε α}, ReadOperation r → r.Orderly) ∧
    (∀ {α : Type} {r : Reader DecodeError α} {k : Nat}, FixedWidth r k → r.TakesExactly k) ∧
    ∀ c : Cursor, (∃ c', readBytes 0 c = .error .fault c') ↔ c.data.size < c.index := by
  refine ⟨fun h => ?_, FixedWidth.takesExactly, fun c => ?_⟩
  · cases h with
    | bytes hn => exact readBytes_orderly hn
    | fixed h => exact h.orderly
    | bool => exact readBool_orderly
    | string => exact readString_orderly
    | seq minSize h => exact readSeq_orderly minSize h
    | seqAs of minSize h => exact readSeqAs_orderly of minSize h
    | array n h => exact h.readArray n
  · rw [readBytes_apply, if_neg (Nat.not_lt_zero _)]
    split
    · next hpast => exact ⟨fun _ => hpast, fun _ => ⟨c, rfl⟩⟩
    · next hinside => exact ⟨fun ⟨_, h⟩ => (nomatch h), fun hpast => absurd hpast hinside⟩

/-- A byte, and behind it a sequence with one pair of texts. -/
def pairData : ByteArray :=
  ⟨#[255, 1, 0, 0, 0, 1, 0, 0, 0, 97, 0, 0, 0, 0]⟩

/-- The pair is read the same whatever follows it. Where two bytes are left no number of four bytes
    is taken, and behind the end no empty slice is. -/
theorem readOperation_orderly_pairData :
    let pairs := readSeq 8 (readArray readString 2)
    (∀ tail, pairs ⟨pairData ++ tail, 1⟩ = .ok [#v["a", ""]] ⟨pairData ++ tail, 14⟩) ∧
    (∃ s c, readU32 ⟨pairData, 12⟩ = .error s c ∧ c = ⟨pairData, 12⟩) ∧
    ∃ c, readBytes 0 ⟨pairData, 15⟩ = .error .fault c := by
  intro pairs
  have hpairs : pairs.Orderly :=
    readOperation_orderly.1 (.seq 8 (readOperation_orderly.1
      (.array 2 (readOperation_orderly.1 .string))))
  have hread : pairs.succeeds ⟨pairData, 1⟩ (fun a c => a == [#v["a", ""]] && c.index == 14) =
      true := by
    decide +kernel
  obtain ⟨a, c, ha, htest⟩ := exists_of_succeeds hread
  obtain ⟨heq, hindex⟩ := Bool.and_eq_true_iff.1 htest
  have hu32 := readOperation_orderly.2.1 .u32
  refine ⟨fun tail => ?_, ?_, (readOperation_orderly.2.2 _).2 (by decide)⟩
  · rw [hpairs.ok_append ha tail, eq_of_beq heq, eq_of_beq hindex]
  · cases hstop : readU32 ⟨pairData, 12⟩ with
    | ok n c => exact absurd ((hu32.ok_iff _).1 ⟨n, c, hstop⟩) (by decide)
    | error s c => exact ⟨s, c, rfl, hu32.error_eq hstop⟩

end WireSchema
