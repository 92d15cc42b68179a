import WireSchema.Proofs.Game.Agreement
import WireSchema.Proofs.Wire.Recovers

/-!
# Game messages are recovered

The reader of each message takes what its writer writes, and gives the message back
(`AnyMessage.read_recovers`). Only enum values may come back as others: an integer that was written
as unknown, although it belongs to a member, is read as the member.
-/

namespace WireSchema.Game

open Reader

/-! ## Messages as they are read -/

/-- The player with its enum values as they are read. -/
def PlayerState.settle (m : PlayerState) : PlayerState :=
  { m with reason := m.reason.settle, team := m.team.settle }

/-- The snapshot with its enum values as they are read. -/
def Snapshot.settle (m : Snapshot) : Snapshot :=
  { m with players := m.players.map PlayerState.settle }

/-- The loadout with its enum values as they are read. -/
def Loadout.settle (m : Loadout) : Loadout :=
  { m with teams := m.teams.map OpenEnum.settle, history := m.history.map OpenEnum.settle }

/-- The message with its enum values as they are read. -/
def AnyMessage.settle : AnyMessage → AnyMessage
  | playerState m => playerState m.settle
  | snapshot m => snapshot m.settle
  | loadout m => loadout m.settle
  | heartbeat m => heartbeat m
  | ping m => ping m
  | item m => item m
  | chatLine m => chatLine m
  | treeNode m => treeNode m

/-! ## Readers and writers -/

section

variable {n : Nat}

/-- A number is recovered from its bytes. -/
theorem recovers_number {α : Type} {r : Reader DecodeError α} {a : α} {e : ByteArray}
    (h : r.Accepts a e) : r.Recovers n a (writeBytes e : Writer EncodeError Unit) :=
  recovers_of_writes h (writeBytes_writes e)

/-- A reader of a kind takes no less than the least size of the kind. -/
theorem le_size_of_reads {α : Type} [Typed α] {r : Reader DecodeError α} {k : Nat}
    (hr : Typed.Reads schema n r) (hk : schema.minSize (Typed.kind α) = k) (a : α)
    (e : ByteArray) (ha : r.Accepts a e) : k ≤ e.size :=
  hk ▸ hr.minSize_le ha

/-- A heartbeat that is written can be read back. -/
theorem Heartbeat.read_recovers (m : Heartbeat) : Heartbeat.read.Recovers n m m.write :=
  (recovers_number (readU64_accepts _)).last.allOrNothing

theorem Ping.read_recovers (m : Ping) : Ping.read.Recovers n m m.write :=
  recovers_pure _

theorem Item.read_recovers (m : Item) : Item.read.Recovers n m m.write :=
  ((recovers_number (readU32_accepts _)).bind <|
    (readString_recovers _).bind <|
    (recovers_number (readU16_accepts _)).last).allOrNothing

/-- Of a player, the enums come back settled: a number that is declared comes back as its member. -/
theorem PlayerState.read_recovers (m : PlayerState) :
    PlayerState.read.Recovers n m.settle m.write :=
  ((readString_recovers _).bind <|
    (recovers_readArray fun x _ => recovers_number (readSingle_accepts x)).bind <|
    (recovers_readSeq (le_size_of_reads Item.read_reads (n := n) (by decide +kernel)) (by decide)
      fun i _ => i.read_recovers).bind <|
    (OpenEnum.read_recovers _).bind <|
    (OpenEnum.read_recovers _).bind <|
    (readBool_recovers _).bind <|
    (recovers_number (readI32_accepts _)).last).allOrNothing

/-- A snapshot comes back with the enums of its players settled. -/
theorem Snapshot.read_recovers (m : Snapshot) : Snapshot.read.Recovers n m.settle m.write :=
  ((recovers_number (readU32_accepts _)).bind <|
    (recovers_readSeq_map (le_size_of_reads PlayerState.read_reads (n := n) (by decide +kernel))
      (by decide) fun p _ => p.read_recovers).bind <|
    (recovers_readSeq
      (le_size_of_reads (readArray_reads readU8_reads 4) (n := n) (by decide +kernel)) (by decide)
      fun row _ =>
        recovers_readArray fun x _ => recovers_number (readU8_accepts x)).bind <|
    (recovers_number (readDouble_accepts _)).bind <|
    (recovers_number (readI8_accepts _)).bind <|
    (recovers_number (readI16_accepts _)).bind <|
    (recovers_number (readI64_accepts _)).last).allOrNothing

theorem ChatLine.read_recovers (m : ChatLine) : ChatLine.read.Recovers n m m.write :=
  (readString_recovers _).last.allOrNothing

theorem Loadout.read_recovers (m : Loadout) : Loadout.read.Recovers n m.settle m.write :=
  ((recovers_number (readU8_accepts _)).bind <|
    (recovers_readSeq (le_size_of_reads readString_reads (n := n) (by decide +kernel)) (by decide)
      fun t _ => readString_recovers t).bind <|
    (recovers_readSeq_map
      (le_size_of_reads (OpenEnum.read_reads team_declared) (n := n) (by decide +kernel))
      (by decide) fun t _ => t.read_recovers).bind <|
    (recovers_readArray_map fun r _ => r.read_recovers).bind <|
    (recovers_readArray fun i _ => i.read_recovers).bind <|
    (recovers_readArray fun t _ => readString_recovers t).bind <|
    (recovers_readSeq (le_size_of_reads readBool_reads (n := n) (by decide +kernel)) (by decide)
      fun b _ => readBool_recovers b).bind <|
    (recovers_readSeq (le_size_of_reads readU64_reads (n := n) (by decide +kernel)) (by decide)
      fun k _ => recovers_number (readU64_accepts k)).bind <|
    (recovers_readArray fun p _ => p.read_recovers).bind <|
    (recovers_number (readU16_accepts _)).last).allOrNothing

end

/-- Writing a tree only adds bytes, on every level. -/
theorem TreeNode.write_appends : (t : TreeNode) → t.write.Appends
  | ⟨value, children⟩ => by
    have hchildren : ∀ t ∈ children, t.write.Appends := fun t _ => t.write_appends
    rw [write_eq]
    exact ((writeBytes_writes _).appends.bind
      ((writeLen_appends _).bind (appends_writeAll hchildren))).allOrNothing

/-- The reader of trees to a depth recovers the trees whose bytes are fewer than the depth. -/
theorem TreeNode.readWithin_recovers (depth : Nat) (t : TreeNode) :
    (readWithin depth).Recovers depth t t.write := by
  induction depth generalizing t with
  | zero => exact ⟨t.write_appends, fun _ _ h => absurd h (Nat.not_lt_zero _)⟩
  | succ depth ih =>
    obtain ⟨value, children⟩ := t
    have hchildren : (readSeq 8 (readWithin depth)).Recovers (depth + 1) children
        (writeSeq write children) :=
      recovers_readSeq (le_size_of_reads (readWithin_reads depth) (by decide +kernel)) (by decide)
        fun t _ => ih t
    rw [write_eq]
    exact ((recovers_number (readU32_accepts _)).bind hchildren.last).allOrNothing

/-- A tree comes back whatever its depth, since its bytes are more than its levels. -/
theorem TreeNode.read_recovers (n : Nat) (t : TreeNode) : TreeNode.read.Recovers n t t.write := by
  refine ⟨t.write_appends, fun e he _ c c' hspan => ?_⟩
  have hsize : e.size < c.data.size + 1 := by
    have := hspan.index_eq
    have := hspan.le_size
    omega
  exact (readWithin_recovers _ t).accepts he hsize hspan

/-- An entry of the registry recovers a message if the reader of its type does. -/
theorem recovers_entry {α : Type} {n : Nat} {r : Reader DecodeError α} {a : α}
    {w : Writer EncodeError Unit} (name : String) (h : r.Recovers n a w) {id : UInt32}
    {wrap : α → AnyMessage} (he : ⟨id, name, wrap <$> r⟩ ∈ registry.entries) :
    (AnyMessage.read id).Recovers n (wrap a) w := by
  rw [AnyMessage.read, Registry.decode_of_mem registry_sorted he]
  exact (h.map wrap).mapError _

/-- A message is recovered under its identifier. -/
theorem AnyMessage.read_recovers (n : Nat) (a : AnyMessage) :
    (AnyMessage.read a.id).Recovers n a.settle a.write := by
  cases a with
  | heartbeat m =>
    exact recovers_entry "Heartbeat" m.read_recovers (by simp [registry, AnyMessage.id])
  | ping m => exact recovers_entry "Ping" m.read_recovers (by simp [registry, AnyMessage.id])
  | playerState m =>
    exact recovers_entry "PlayerState" m.read_recovers (by simp [registry, AnyMessage.id])
  | item m => exact recovers_entry "Item" m.read_recovers (by simp [registry, AnyMessage.id])
  | snapshot m =>
    exact recovers_entry "Snapshot" m.read_recovers (by simp [registry, AnyMessage.id])
  | chatLine m =>
    exact recovers_entry "ChatLine" m.read_recovers (by simp [registry, AnyMessage.id])
  | treeNode t =>
    exact recovers_entry "TreeNode" (t.read_recovers n) (by simp [registry, AnyMessage.id])
  | loadout m => exact recovers_entry "Loadout" m.read_recovers (by simp [registry, AnyMessage.id])

end WireSchema.Game
