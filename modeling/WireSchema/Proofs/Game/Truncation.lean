import WireSchema.Proofs.Game.Recovers
import WireSchema.Proofs.Value.RoundTrip
import WireSchema.Proofs.Value.Termination

/-!
# No front of a message is a message

If the end of a message is cut off, it cannot be read, and the error says that bytes are missing: it
does not turn into another message, and what is left is not found to be broken in another way
(`cut_isShort`). This holds for dynamic values of any schema and for the types of the game.

Both follow from two laws. The whole message is read up to its last byte, because its reader accepts
what was written. And a reader that is steady does on a front of the data what it does on all of it,
unless it comes to miss bytes (`Reader.Steady.error_of_cut`).
-/

namespace WireSchema

open Reader

/-- Is the error one of decoding that says that bytes are missing? -/
def DispatchError.isShort : DispatchError → Bool
  | decode e => e.isShort
  | unknownId _ => false

/-- Of the errors of dispatching, only those of decoding say that bytes are missing. -/
theorem DispatchError.exists_of_isShort {err : DispatchError} (h : err.isShort = true) :
    ∃ e, err = .decode e ∧ e.isShort = true := by
  cases err with
  | decode e => exact ⟨e, rfl, h⟩
  | unknownId id => cases h

namespace Game

/-! ## Readers of types are steady -/

/-- Reading a heartbeat goes the same way on all data with the bytes it went over. -/
theorem Heartbeat.read_steady : Heartbeat.read.Steady DecodeError.isShort :=
  ((readUInt_steady _).map _).bind fun _ => steady_pure _

theorem Ping.read_steady : Ping.read.Steady DecodeError.isShort :=
  steady_pure _

theorem Item.read_steady : Item.read.Steady DecodeError.isShort :=
  ((readUInt_steady _).map _).bind fun _ =>
  readString_steady.bind fun _ =>
  ((readUInt_steady _).map _).bind fun _ => steady_pure _

/-- The readers of a player are steady one by one, so their sequence is. -/
theorem PlayerState.read_steady : PlayerState.read.Steady DecodeError.isShort :=
  readString_steady.bind fun _ =>
  ((((readUInt_steady _).map _).map _).readArray 3).bind fun _ =>
  (readSeq_steady 10 Item.read_steady).bind fun _ =>
  (OpenEnum.read_steady _).bind fun _ =>
  (OpenEnum.read_steady _).bind fun _ =>
  readBool_steady.bind fun _ =>
  ((readInt_steady _).map _).bind fun _ => steady_pure _

theorem Snapshot.read_steady : Snapshot.read.Steady DecodeError.isShort :=
  ((readUInt_steady _).map _).bind fun _ =>
  (readSeq_steady 27 PlayerState.read_steady).bind fun _ =>
  (readSeq_steady 4 (((readUInt_steady _).map _).readArray 4)).bind fun _ =>
  (((readUInt_steady _).map _).map _).bind fun _ =>
  ((readInt_steady _).map _).bind fun _ =>
  ((readInt_steady _).map _).bind fun _ =>
  ((readInt_steady _).map _).bind fun _ => steady_pure _

theorem ChatLine.read_steady : ChatLine.read.Steady DecodeError.isShort :=
  readString_steady.bind fun _ => steady_pure _

theorem Loadout.read_steady : Loadout.read.Steady DecodeError.isShort :=
  ((readUInt_steady _).map _).bind fun _ =>
  (readSeq_steady 4 readString_steady).bind fun _ =>
  (readSeq_steady 1 (OpenEnum.read_steady _)).bind fun _ =>
  ((OpenEnum.read_steady _).readArray 2).bind fun _ =>
  (Item.read_steady.readArray 2).bind fun _ =>
  (readString_steady.readArray 3).bind fun _ =>
  (readSeq_steady 1 readBool_steady).bind fun _ =>
  (readSeq_steady 8 ((readUInt_steady _).map _)).bind fun _ =>
  (Ping.read_steady.readArray 2).bind fun _ =>
  ((readUInt_steady _).map _).bind fun _ => steady_pure _

/-! ### Trees -/

/-- Reading a tree is steady under every bound on its depth. -/
theorem TreeNode.readWithin_steady (depth : Nat) :
    (readWithin depth).Steady DecodeError.isShort := by
  induction depth with
  | zero => exact steady_throw _
  | succ depth ih =>
    exact ((readUInt_steady _).map _).bind fun _ =>
      (readSeq_steady 8 ih).bind fun _ => steady_pure _

/-- A higher bound on the depth keeps every answer that a lower one gives. -/
theorem TreeNode.readWithin_deepens {depth depth' : Nat} (h : depth ≤ depth') :
    (readWithin depth).Deepens (readWithin depth') := by
  induction depth generalizing depth' with
  | zero => exact fun c hc => absurd rfl (hc c)
  | succ depth ih =>
    obtain ⟨depth', rfl⟩ := Nat.exists_eq_succ_of_ne_zero (Nat.ne_zero_of_lt h)
    have helement := ih (Nat.le_of_succ_le_succ h)
    exact (Deepens.refl _).bind fun _ =>
      ((Deepens.refl _).bind fun n => helement.times n).bind fun _ => .refl _

/-- Every level takes bytes, so the depth does not run out where it is more than the bytes. -/
theorem TreeNode.readWithin_fails {depth n : Nat} (h : n < depth) :
    (readWithin depth).Fails n (Reports id) := by
  induction depth generalizing n with
  | zero => exact absurd h (Nat.not_lt_zero n)
  | succ depth ih =>
    have hchildren : (readSeq 8 (readWithin depth)).Fails n (Reports id) := by
      intro c s c' hc hs
      rcases Run.bind_eq_error_iff.1 hs with hcount | ⟨count, c₁, hcount, hs⟩
      · exact readCount_fails 8 hc hcount
      · -- The count takes four bytes, so a level less is enough for the children.
        have hrem := readCount_remaining hcount
        have htimes := Fails.times (p := Reports id) (fun _ _ _ => Reports.back)
          (ih (n := n - 4) (by omega)) (readWithin_steady depth).toForward count
        exact (htimes (by omega) hs).back ((readCount_steady 8).ok hcount)
    exact ((readUInt_fails .w32).map _).bind (fun _ _ _ => Reports.back)
      ((readUInt_steady .w32).map _).toForward fun _ =>
        hchildren.bind (fun _ _ _ => Reports.back)
          (readSeq_steady 8 (readWithin_steady depth)).toForward fun _ => fails_pure _

/-- The bound on the depth grows with the data, and a longer one changes no answer, so reading is
    steady. -/
theorem TreeNode.read_steady : TreeNode.read.Steady DecodeError.isShort := by
  refine steady_of_depth readWithin_steady readWithin_deepens
    Nat.succ_le_succ fun c c' h => ?_
  cases readWithin_fails (Nat.lt_succ_self _) (Nat.sub_le _ _) h

/-! ### Dispatch -/

/-- Every row of the registry reads steadily. -/
theorem steady_entries {e : Registry.Entry AnyMessage} (he : e ∈ registry.entries) :
    e.decode.Steady DecodeError.isShort := by
  simp only [registry, List.mem_toArray, List.mem_cons, List.not_mem_nil, or_false] at he
  rcases he with rfl | rfl | rfl | rfl | rfl | rfl | rfl | rfl
  · exact Heartbeat.read_steady.map _
  · exact Ping.read_steady.map _
  · exact PlayerState.read_steady.map _
  · exact Item.read_steady.map _
  · exact Snapshot.read_steady.map _
  · exact ChatLine.read_steady.map _
  · exact TreeNode.read_steady.map _
  · exact Loadout.read_steady.map _

/-- Reading by identifier is steady, also where no message has the identifier. -/
theorem AnyMessage.read_steady (id : UInt32) :
    (AnyMessage.read id).Steady DispatchError.isShort := by
  rw [AnyMessage.read, Registry.decode]
  cases hget : registry.get? id with
  | none => exact steady_throw _
  | some e =>
    have he := ((Registry.get?_eq_some_iff registry_sorted).1 hget).1
    exact (steady_entries he).mapError fun _ => rfl

/-! ## Cutting messages -/

/-- A front of an encoded value is refused for missing bytes. -/
theorem decode_of_cut {s : Schema} {v : Value} {bytes : ByteArray} (h : v.encode s = .ok bytes)
    {n : Nat} (hn : n < bytes.size) :
    ∃ m e, v.messageIn? s = some m ∧
      Value.decode s m.name (bytes.extract 0 n) = .error (.error (.decode e)) ∧
      e.isShort = true := by
  obtain ⟨m, w, hm, hw, -⟩ := Value.exists_accepts_of_encode h
  obtain ⟨hmem, hfind⟩ := Value.mem_of_messageIn? hm
  obtain ⟨stop, c, hstop, hshort⟩ := (Value.readMessage_steady hmem).error_of_cut hw hn
  obtain ⟨_, rfl, hshort⟩ := Stop.exists_of_isShort hshort
  obtain ⟨e, rfl, hshort⟩ := ValueError.exists_of_isShort hshort
  refine ⟨m, e, hm, ?_, hshort⟩
  rw [Value.decode, hfind]
  exact result_eq_error_iff.2 ⟨c, hstop⟩

/-- A front of the bytes of a message is refused for missing bytes. -/
theorem ofBytes_of_cut {a : AnyMessage} {bytes : ByteArray} (h : a.toBytes = .ok bytes) {n : Nat}
    (hn : n < bytes.size) :
    ∃ e, AnyMessage.ofBytes a.id (bytes.extract 0 n) = .error (.error (.decode e)) ∧
      e.isShort = true := by
  -- What is recovered may differ from the message in its enum values, but its bytes are accepted.
  have hrecovers := a.read_recovers (bytes.size + 1)
  have hwrites := hrecovers.appends.toBytes_eq_ok_iff.1 h
  have haccepts := hrecovers.accepts hwrites (Nat.lt_succ_self _)
  obtain ⟨stop, c, hstop, hshort⟩ := (AnyMessage.read_steady a.id).error_of_cut haccepts hn
  obtain ⟨_, rfl, hshort⟩ := Stop.exists_of_isShort hshort
  obtain ⟨e, rfl, hshort⟩ := DispatchError.exists_of_isShort hshort
  exact ⟨e, result_eq_error_iff.2 ⟨c, hstop⟩, hshort⟩

/-- If the end of a message is cut off, reading it fails for missing bytes, by any schema and by the
    types of the game. -/
theorem cut_isShort :
    (∀ (s : Schema) (v : Value) (bytes : ByteArray) (n : Nat), v.encode s = .ok bytes →
      n < bytes.size → ∃ m e, v.messageIn? s = some m ∧
        Value.decode s m.name (bytes.extract 0 n) = .error (.error (.decode e)) ∧
        e.isShort = true) ∧
    (∀ (a : AnyMessage) (bytes : ByteArray) (n : Nat), a.toBytes = .ok bytes → n < bytes.size →
      ∃ e, AnyMessage.ofBytes a.id (bytes.extract 0 n) = .error (.error (.decode e)) ∧
        e.isShort = true) :=
  ⟨fun _ _ _ _ h hn => decode_of_cut h hn, fun _ _ _ h hn => ofBytes_of_cut h hn⟩

/-- A line of chat is cut inside of its only character. -/
theorem cut_isShort_chat :
    let text : Value := .message "ChatLine" [("text", .string "é")]
    let line : AnyMessage := .chatLine ⟨"é"⟩
    let bytes : ByteArray := ⟨#[2, 0, 0, 0, 195, 169]⟩
    (∃ m e, text.messageIn? schema = some m ∧
      Value.decode schema m.name (bytes.extract 0 5) = .error (.error (.decode e)) ∧
      e.isShort = true) ∧
    ∃ e, AnyMessage.ofBytes line.id (bytes.extract 0 5) = .error (.error (.decode e)) ∧
      e.isShort = true := by
  intro text line bytes
  have htext : text.encode schema = .ok bytes := by decide +kernel
  have hline : line.toBytes = .ok bytes := by decide +kernel
  exact ⟨cut_isShort.1 schema text bytes 5 htext (by decide),
    cut_isShort.2 line bytes 5 hline (by decide)⟩

end Game

end WireSchema
