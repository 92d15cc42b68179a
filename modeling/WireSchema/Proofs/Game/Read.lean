import WireSchema.Game.Codec
import WireSchema.Proofs.Game.Schema
import WireSchema.Proofs.Value.Typed

/-!
# Game messages are read by their schema

The types of the game messages stand for the messages of `Game.schema`. The reader of each type is
put together from the readers of its fields, in the order of their declaration, and so it takes the
wire forms that the schema gives to the message.

A tree is read to a depth. A level takes at least a byte, so forms smaller than the depth are read
(`TreeNode.readWithin_reads`), and the depth of `TreeNode.read` is more than the data has bytes.
-/

namespace WireSchema.Game

open Typed

/-! ## Values -/

instance : Typed Heartbeat :=
  ofFields "Heartbeat" fun m => [("clientClock", toValue m.clientClock)]

instance : Typed Ping :=
  ofFields "Ping" fun _ => []

instance : Typed Item :=
  ofFields "Item" fun m =>
    [("id", toValue m.id), ("label", toValue m.label), ("count", toValue m.count)]

instance : Typed PlayerState :=
  ofFields "PlayerState" fun m =>
    [("name", toValue m.name), ("position", toValue m.position),
     ("inventory", toValue m.inventory), ("reason", toValue m.reason), ("team", toValue m.team),
     ("alive", toValue m.alive), ("score", toValue m.score)]

instance : Typed Snapshot :=
  ofFields "Snapshot" fun m =>
    [("tick", toValue m.tick), ("players", toValue m.players),
     ("checksums", toValue m.checksums), ("serverTime", toValue m.serverTime),
     ("drift", toValue m.drift), ("lag", toValue m.lag), ("offset", toValue m.offset)]

instance : Typed ChatLine :=
  ofFields "ChatLine" fun m => [("text", toValue m.text)]

mutual

/-- The dynamic value of a tree. -/
def TreeNode.toValue : TreeNode → Value
  | ⟨value, children⟩ =>
    .message "TreeNode"
      [("value", Typed.toValue value), ("children", .array (TreeNode.toValues children))]

/-- The dynamic values of trees. -/
def TreeNode.toValues : List TreeNode → List Value
  | [] => []
  | t :: rest => t.toValue :: TreeNode.toValues rest

end

instance : Typed TreeNode := ⟨.named "TreeNode", TreeNode.toValue⟩

instance : Typed Loadout :=
  ofFields "Loadout" fun m =>
    [("slot", toValue m.slot), ("tags", toValue m.tags), ("teams", toValue m.teams),
     ("history", toValue m.history), ("hands", toValue m.hands), ("labels", toValue m.labels),
     ("flags", toValue m.flags), ("stamps", toValue m.stamps), ("acks", toValue m.acks),
     ("version", toValue m.version)]

/-- The dynamic value of a message. -/
def AnyMessage.toValue : AnyMessage → Value
  | heartbeat m => Typed.toValue m
  | ping m => Typed.toValue m
  | playerState m => Typed.toValue m
  | item m => Typed.toValue m
  | snapshot m => Typed.toValue m
  | chatLine m => Typed.toValue m
  | treeNode m => Typed.toValue m
  | loadout m => Typed.toValue m

/-- The list of trees is taken to values tree by tree. -/
theorem TreeNode.toValues_eq (ts : List TreeNode) : toValues ts = ts.map toValue := by
  induction ts with
  | nil => rfl
  | cons t rest ih => rw [toValues, List.map_cons, ih]

/-- A tree is a message like the others. -/
theorem TreeNode.toValue_eq (t : TreeNode) : t.toValue =
    .message "TreeNode"
      [("value", Typed.toValue t.value), ("children", Typed.toValue t.children)] := by
  obtain ⟨value, children⟩ := t
  rw [toValue, toValues_eq]
  rfl

/-! ## Readers -/

/-- The messages of the game, in the order of their declaration. -/
theorem messages_schema : schema.messages =
    [Decl.heartbeat, Decl.ping, Decl.playerState, Decl.item, Decl.snapshot, Decl.chatLine,
     Decl.treeNode, Decl.loadout] := rfl

/-- The type of reasons has the members that the schema declares. -/
theorem disconnectReason_declared :
    WireEnum.Declared schema DisconnectReason Decl.disconnectReason where
  resolve := Schema.resolve?_enumeration_of_mem (s := schema) (t := Decl.disconnectReason)
    List.mem_cons_self
  name_eq := rfl
  width_eq := rfl
  toValue_eq := by
    intro raw a h
    simp only [WireEnum.ofValue?] at h
    cases a <;> simp only [WireEnum.toValue] <;> grind

theorem team_declared : WireEnum.Declared schema Team Decl.team where
  resolve := Schema.resolve?_enumeration_of_mem (s := schema) (t := Decl.team)
    (List.mem_cons_of_mem _ List.mem_cons_self)
  name_eq := rfl
  width_eq := by decide
  toValue_eq := by
    intro raw a h
    simp only [WireEnum.ofValue?] at h
    cases a <;> simp only [WireEnum.toValue] <;> grind

section

variable {n : Nat}

/-- The reader of a heartbeat reads the layout that the schema gives it, field by field. -/
theorem Heartbeat.read_reads : Reads schema n Heartbeat.read :=
  readsMessage (m := Decl.heartbeat) (by simp [messages_schema]) <|
    readsFields_cons readU64_reads fun _ => readsFields_nil rfl

theorem Ping.read_reads : Reads schema n Ping.read :=
  readsMessage (m := Decl.ping) (by simp [messages_schema]) (readsFields_nil rfl)

theorem Item.read_reads : Reads schema n Item.read :=
  readsMessage (m := Decl.item) (by simp [messages_schema]) <|
    readsFields_cons readU32_reads fun _ =>
    readsFields_cons readString_reads fun _ =>
    readsFields_cons readU16_reads fun _ => readsFields_nil rfl

/-- A player has a text, an array of each form, enums and numbers, and is read through them. -/
theorem PlayerState.read_reads : Reads schema n PlayerState.read :=
  readsMessage (m := Decl.playerState) (by simp [messages_schema]) <|
    readsFields_cons readString_reads fun _ =>
    readsFields_cons (readArray_reads readSingle_reads 3) fun _ =>
    readsFields_cons (readSeq_reads Item.read_reads (by decide +kernel) (by decide)) fun _ =>
    readsFields_cons (OpenEnum.read_reads disconnectReason_declared) fun _ =>
    readsFields_cons (OpenEnum.read_reads team_declared) fun _ =>
    readsFields_cons readBool_reads fun _ =>
    readsFields_cons readI32_reads fun _ => readsFields_nil rfl

/-- A snapshot is read through the reader of its players. -/
theorem Snapshot.read_reads : Reads schema n Snapshot.read :=
  readsMessage (m := Decl.snapshot) (by simp [messages_schema]) <|
    readsFields_cons readU32_reads fun _ =>
    readsFields_cons (readSeq_reads PlayerState.read_reads (by decide +kernel) (by decide)) fun _ =>
    readsFields_cons (readSeq_reads (readArray_reads readU8_reads 4) (by decide +kernel)
      (by decide)) fun _ =>
    readsFields_cons readDouble_reads fun _ =>
    readsFields_cons readI8_reads fun _ =>
    readsFields_cons readI16_reads fun _ =>
    readsFields_cons readI64_reads fun _ => readsFields_nil rfl

theorem ChatLine.read_reads : Reads schema n ChatLine.read :=
  readsMessage (m := Decl.chatLine) (by simp [messages_schema]) <|
    readsFields_cons readString_reads fun _ => readsFields_nil rfl

theorem Loadout.read_reads : Reads schema n Loadout.read :=
  readsMessage (m := Decl.loadout) (by simp [messages_schema]) <|
    readsFields_cons readU8_reads fun _ =>
    readsFields_cons (readSeq_reads readString_reads (by decide +kernel) (by decide)) fun _ =>
    readsFields_cons (readSeq_reads (OpenEnum.read_reads team_declared) (by decide +kernel)
      (by decide)) fun _ =>
    readsFields_cons (readArray_reads (OpenEnum.read_reads disconnectReason_declared) 2) fun _ =>
    readsFields_cons (readArray_reads Item.read_reads 2) fun _ =>
    readsFields_cons (readArray_reads readString_reads 3) fun _ =>
    readsFields_cons (readSeq_reads readBool_reads (by decide +kernel) (by decide)) fun _ =>
    readsFields_cons (readSeq_reads readU64_reads (by decide +kernel) (by decide)) fun _ =>
    readsFields_cons (readArray_reads Ping.read_reads 2) fun _ =>
    readsFields_cons readU16_reads fun _ => readsFields_nil rfl

end

/-- The reader of trees to a depth takes the forms that are smaller than the depth. -/
theorem TreeNode.readWithin_reads (depth : Nat) :
    Reads schema depth (TreeNode.readWithin depth) := by
  induction depth with
  | zero => exact ⟨fun _ _ _ _ h => (nomatch h), fun _ _ _ h => absurd h (Nat.not_lt_zero _)⟩
  | succ depth ih =>
    have hchildren : Reads schema (depth + 1) (readSeq 8 (TreeNode.readWithin depth)) :=
      readSeq_reads ih (by decide +kernel) (by decide)
    have hfields : ReadsFields schema
        (fun t => [("value", Typed.toValue t.value), ("children", Typed.toValue t.children)]) []
        Decl.treeNode.fields (depth + 1) (TreeNode.readWithin (depth + 1)) :=
      readsFields_cons readU32_reads fun _ =>
      readsFields_cons hchildren fun _ => readsFields_nil rfl
    rw [Reads, show (Typed.toValue : TreeNode → Value) = _ from funext TreeNode.toValue_eq]
    exact readsMessage (m := Decl.treeNode) (by simp [messages_schema]) hfields

/-- The bound on the depth of a tree is the size of the data, which no tree exceeds. -/
theorem TreeNode.read_reads (n : Nat) : Reads schema n TreeNode.read := by
  refine ⟨fun c v c' hc h => ?_, fun v e hlayout _ c c' hspan => ?_⟩
  · exact (readWithin_reads _).consumes hc h
  · have hsize : e.size < c.data.size + 1 := by
      have := hspan.index_eq
      have := hspan.le_size
      omega
    exact (readWithin_reads _).accepts hlayout hsize hspan

end WireSchema.Game
