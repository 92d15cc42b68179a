import WireSchema.Proofs.Game.Read
import WireSchema.Proofs.Value.TypedWrite

/-!
# Game messages are written by their schema

The writer of each type does what the writer of its dynamic value does
(`AnyMessage.encode_toValue`). Only numbers of 32 bits that are NaNs are left out: widening makes
them quiet, so that their dynamic values can be written with other bits.
-/

namespace WireSchema.Game

open Typed

/-! ## Numbers that are NaNs -/

/-- Is a coordinate of the player a NaN? -/
def PlayerState.holdsSingleNaN (m : PlayerState) : Bool :=
  m.position.toList.any Number.Single.isNaN

/-- Is a number of 32 bits in the message a NaN? -/
def AnyMessage.holdsSingleNaN : AnyMessage → Bool
  | playerState m => m.holdsSingleNaN
  | snapshot m => m.players.any PlayerState.holdsSingleNaN
  | _ => false

/-! ## Writers -/

/-- A heartbeat and its value are written alike. -/
theorem Heartbeat.write_like (m : Heartbeat) : WritesLike schema m m.write :=
  (writesMessage (m := Decl.heartbeat) (by simp [messages_schema])
    (writesFields_last (writeU64_like _))).allOrNothing

theorem Ping.write_like (m : Ping) : WritesLike schema m m.write :=
  writesMessage (m := Decl.ping) (by simp [messages_schema]) writesFields_nil

theorem Item.write_like (m : Item) : WritesLike schema m m.write :=
  (writesMessage (m := Decl.item) (by simp [messages_schema]) <|
    writesFields_cons (writeU32_like _) <|
    writesFields_cons (writeString_like _) <|
    writesFields_last (writeU16_like _)).allOrNothing

/-- A player and its value are written alike unless a number of single precision is a NaN. -/
theorem PlayerState.write_like {m : PlayerState} (h : m.holdsSingleNaN = false) :
    WritesLike schema m m.write := by
  have hposition : ∀ x ∈ m.position.toList, WritesLike schema x (writeSingle x) :=
    fun x hx => writeSingle_like (Bool.eq_false_iff.2 (List.any_eq_false.1 h x hx))
  exact (writesMessage (m := Decl.playerState) (by simp [messages_schema]) <|
    writesFields_cons (writeString_like _) <|
    writesFields_cons (writeAll_toList_like hposition) <|
    writesFields_cons (writeSeq_like fun i _ => Item.write_like i) <|
    writesFields_cons (OpenEnum.write_like disconnectReason_declared _) <|
    writesFields_cons (OpenEnum.write_like team_declared _) <|
    writesFields_cons (writeBool_like _) <|
    writesFields_last (writeI32_like _)).allOrNothing

/-- A snapshot and its value are written alike if none of its players holds such a NaN. -/
theorem Snapshot.write_like {m : Snapshot} (h : m.players.any PlayerState.holdsSingleNaN = false) :
    WritesLike schema m m.write := by
  have hplayers : ∀ p ∈ m.players, WritesLike schema p p.write :=
    fun p hp => PlayerState.write_like (Bool.eq_false_iff.2 (List.any_eq_false.1 h p hp))
  exact (writesMessage (m := Decl.snapshot) (by simp [messages_schema]) <|
    writesFields_cons (writeU32_like _) <|
    writesFields_cons (writeSeq_like hplayers) <|
    writesFields_cons
      (writeSeq_like fun row _ => writeAll_toList_like fun v _ => writeU8_like v) <|
    writesFields_cons (writeDouble_like _) <|
    writesFields_cons (writeI8_like _) <|
    writesFields_cons (writeI16_like _) <|
    writesFields_last (writeI64_like _)).allOrNothing

theorem ChatLine.write_like (m : ChatLine) : WritesLike schema m m.write :=
  (writesMessage (m := Decl.chatLine) (by simp [messages_schema])
    (writesFields_last (writeString_like _))).allOrNothing

theorem Loadout.write_like (m : Loadout) : WritesLike schema m m.write :=
  (writesMessage (m := Decl.loadout) (by simp [messages_schema]) <|
    writesFields_cons (writeU8_like _) <|
    writesFields_cons (writeSeq_like fun t _ => writeString_like t) <|
    writesFields_cons (writeSeq_like fun t _ => OpenEnum.write_like team_declared t) <|
    writesFields_cons
      (writeAll_toList_like fun r _ => OpenEnum.write_like disconnectReason_declared r) <|
    writesFields_cons (writeAll_toList_like fun i _ => Item.write_like i) <|
    writesFields_cons (writeAll_toList_like fun t _ => writeString_like t) <|
    writesFields_cons (writeSeq_like fun b _ => writeBool_like b) <|
    writesFields_cons (writeSeq_like fun n _ => writeU64_like n) <|
    writesFields_cons (writeAll_toList_like fun p _ => Ping.write_like p) <|
    writesFields_last (writeU16_like _)).allOrNothing

/-- Writing the children one after another is writing a list. -/
theorem TreeNode.writeEach_eq (ts : List TreeNode) : writeEach ts = writeAll write ts := by
  induction ts with
  | nil => rfl
  | cons t rest ih => rw [writeEach, writeAll, ih]

/-- A tree is written like the other messages: its number and the counted children, or nothing. -/
theorem TreeNode.write_eq (t : TreeNode) :
    t.write = Writer.allOrNothing (do writeU32 t.value; writeSeq write t.children) := by
  obtain ⟨value, children⟩ := t
  rw [write, writeEach_eq]
  rfl

/-- A tree and its value are written alike, by induction on the tree. -/
theorem TreeNode.write_like : (t : TreeNode) → WritesLike schema t t.write
  | ⟨value, children⟩ => by
    have hchildren : ∀ t ∈ children, WritesLike schema t t.write := fun t _ => t.write_like
    rw [WritesLike, show Typed.toValue _ = _ from toValue_eq _, write_eq]
    exact (writesMessage (m := Decl.treeNode) (by simp [messages_schema]) <|
      writesFields_cons (writeU32_like _) <|
      writesFields_last (writeSeq_like hchildren)).allOrNothing

/-- A message has the bytes of its dynamic value, or fails to be written like it. -/
theorem AnyMessage.encode_toValue {m : AnyMessage} (h : m.holdsSingleNaN = false) :
    m.toValue.encode schema = m.toBytes.mapError .encode := by
  cases m with
  | heartbeat m =>
    exact encode_of_alike (m := Decl.heartbeat) (by simp [messages_schema]) m.write_like
  | ping m => exact encode_of_alike (m := Decl.ping) (by simp [messages_schema]) m.write_like
  | playerState m =>
    exact encode_of_alike (m := Decl.playerState) (by simp [messages_schema])
      (PlayerState.write_like h)
  | item m => exact encode_of_alike (m := Decl.item) (by simp [messages_schema]) m.write_like
  | snapshot m =>
    exact encode_of_alike (m := Decl.snapshot) (by simp [messages_schema]) (Snapshot.write_like h)
  | chatLine m =>
    exact encode_of_alike (m := Decl.chatLine) (by simp [messages_schema]) m.write_like
  | treeNode t =>
    have hwrite := t.write_like
    rw [WritesLike, show Typed.toValue t = _ from t.toValue_eq] at hwrite
    rw [toValue, show Typed.toValue t = _ from t.toValue_eq]
    exact encode_of_alike (m := Decl.treeNode) (by simp [messages_schema]) hwrite
  | loadout m =>
    exact encode_of_alike (m := Decl.loadout) (by simp [messages_schema]) m.write_like

end WireSchema.Game
