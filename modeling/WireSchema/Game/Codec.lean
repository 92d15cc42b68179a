import WireSchema.Game.Message
import WireSchema.Wire.Registry

/-!
# Reading and writing game messages

Each message is written field by field in the order of its declaration, and read back in the same
order. A message that cannot be written leaves no bytes behind. A sequence is read with the least
number of bytes that one of its elements can take, so that an impossible count is refused before the
first element.
-/

namespace WireSchema.Game

/-! ## Writing -/

/-- Appends a heartbeat. -/
def Heartbeat.write (m : Heartbeat) : Writer EncodeError Unit :=
  Writer.allOrNothing do
    writeU64 m.clientClock

/-- Appends a ping, which has no bytes. -/
def Ping.write (_ : Ping) : Writer EncodeError Unit :=
  pure ()

/-- Appends an item. -/
def Item.write (m : Item) : Writer EncodeError Unit :=
  Writer.allOrNothing do
    writeU32 m.id
    writeString m.label
    writeU16 m.count

/-- Appends a player state. -/
def PlayerState.write (m : PlayerState) : Writer EncodeError Unit :=
  Writer.allOrNothing do
    writeString m.name
    writeAll writeSingle m.position.toList
    writeSeq Item.write m.inventory
    m.reason.write
    m.team.write
    writeBool m.alive
    writeI32 m.score

/-- Appends a snapshot. -/
def Snapshot.write (m : Snapshot) : Writer EncodeError Unit :=
  Writer.allOrNothing do
    writeU32 m.tick
    writeSeq PlayerState.write m.players
    writeSeq (fun row => writeAll writeU8 row.toList) m.checksums
    writeDouble m.serverTime
    writeI8 m.drift
    writeI16 m.lag
    writeI64 m.offset

/-- Appends a line of chat. -/
def ChatLine.write (m : ChatLine) : Writer EncodeError Unit :=
  Writer.allOrNothing do
    writeString m.text

mutual

/-- Appends a tree. -/
def TreeNode.write : TreeNode → Writer EncodeError Unit
  | ⟨value, children⟩ => Writer.allOrNothing do
    writeU32 value
    writeLen children.length
    TreeNode.writeEach children

/-- Appends trees one after the other. -/
def TreeNode.writeEach : List TreeNode → Writer EncodeError Unit
  | [] => pure ()
  | t :: rest => do
    t.write
    TreeNode.writeEach rest

end

/-- Appends a loadout. -/
def Loadout.write (m : Loadout) : Writer EncodeError Unit :=
  Writer.allOrNothing do
    writeU8 m.slot
    writeSeq writeString m.tags
    writeSeq OpenEnum.write m.teams
    writeAll OpenEnum.write m.history.toList
    writeAll Item.write m.hands.toList
    writeAll writeString m.labels.toList
    writeSeq writeBool m.flags
    writeSeq writeU64 m.stamps
    writeAll Ping.write m.acks.toList
    writeU16 m.version

/-- Appends a message without its identifier. -/
def AnyMessage.write : AnyMessage → Writer EncodeError Unit
  | heartbeat m => m.write
  | ping m => m.write
  | playerState m => m.write
  | item m => m.write
  | snapshot m => m.write
  | chatLine m => m.write
  | treeNode m => m.write
  | loadout m => m.write

/-- The bytes of a message without its identifier. -/
def AnyMessage.toBytes (m : AnyMessage) : Except EncodeError ByteArray :=
  m.write.toBytes

/-! ## Reading -/

/-- Reads a heartbeat. -/
def Heartbeat.read : Reader DecodeError Heartbeat := do
  return { clientClock := ← readU64 }

/-- Reads a ping, which has no bytes. -/
def Ping.read : Reader DecodeError Ping :=
  pure {}

/-- Reads an item. -/
def Item.read : Reader DecodeError Item := do
  return { id := ← readU32, label := ← readString, count := ← readU16 }

/-- Reads a player state. -/
def PlayerState.read : Reader DecodeError PlayerState := do
  return {
    name := ← readString
    position := ← readArray readSingle 3
    inventory := ← readSeq 10 Item.read
    reason := ← OpenEnum.read DisconnectReason
    team := ← OpenEnum.read Team
    alive := ← readBool
    score := ← readI32 }

/-- Reads a snapshot. -/
def Snapshot.read : Reader DecodeError Snapshot := do
  return {
    tick := ← readU32
    players := ← readSeq 27 PlayerState.read
    checksums := ← readSeq 4 (readArray readU8 4)
    serverTime := ← readDouble
    drift := ← readI8
    lag := ← readI16
    offset := ← readI64 }

/-- Reads a line of chat. -/
def ChatLine.read : Reader DecodeError ChatLine := do
  return { text := ← readString }

/-- Reads a tree of at most the given depth. -/
def TreeNode.readWithin : Nat → Reader DecodeError TreeNode
  | 0 => throw .exhausted
  | depth + 1 => do
    return { value := ← readU32, children := ← readSeq 8 (TreeNode.readWithin depth) }

/-- Reads a tree. A node takes eight bytes or more, so no tree is deeper than the data is long. -/
def TreeNode.read : Reader DecodeError TreeNode := do
  TreeNode.readWithin ((← get).data.size + 1)

/-- Reads a loadout. -/
def Loadout.read : Reader DecodeError Loadout := do
  return {
    slot := ← readU8
    tags := ← readSeq 4 readString
    teams := ← readSeq 1 (OpenEnum.read Team)
    history := ← readArray (OpenEnum.read DisconnectReason) 2
    hands := ← readArray Item.read 2
    labels := ← readArray readString 3
    flags := ← readSeq 1 readBool
    stamps := ← readSeq 8 readU64
    acks := ← readArray Ping.read 2
    version := ← readU16 }

/-- The messages of the game by identifier. -/
def registry : Registry AnyMessage where
  entries := #[
    ⟨1, "Heartbeat", .heartbeat <$> Heartbeat.read⟩,
    ⟨2, "Ping", .ping <$> Ping.read⟩,
    ⟨3, "PlayerState", .playerState <$> PlayerState.read⟩,
    ⟨4, "Item", .item <$> Item.read⟩,
    ⟨5, "Snapshot", .snapshot <$> Snapshot.read⟩,
    ⟨6, "ChatLine", .chatLine <$> ChatLine.read⟩,
    ⟨7, "TreeNode", .treeNode <$> TreeNode.read⟩,
    ⟨8, "Loadout", .loadout <$> Loadout.read⟩]

/-- Reads the message with a given identifier. -/
def AnyMessage.read (id : UInt32) : Reader DispatchError AnyMessage :=
  registry.decode id

/-- Reads a whole payload as the message with a given identifier. -/
def AnyMessage.ofBytes (id : UInt32) (payload : ByteArray) :
    Except (Stop DispatchError) AnyMessage :=
  registry.decodeFrame id payload

/-! ## Frames -/

/-- Appends a message behind its identifier. The identifier stays also when the message cannot be
    written. -/
def AnyMessage.writeFrame (m : AnyMessage) : Writer EncodeError Unit := do
  writeU32 m.id
  m.write

/-- Reads an identifier and the message that it announces. -/
def AnyMessage.readFrame : Reader DispatchError AnyMessage := do
  let id ← Reader.mapError .decode readU32
  AnyMessage.read id

/-- Reads at most `n` frames, until nothing remains or one of them cannot be read: the messages,
    each with the index behind it, and why and where reading stopped when it did. -/
def AnyMessage.framesFrom :
    Nat → Cursor → List (AnyMessage × Nat) × Option (Stop DispatchError × Nat)
  | 0, _ => ([], none)
  | n + 1, c =>
    if c.remaining = 0 then ([], none)
    else
      match AnyMessage.readFrame c with
      | .ok m c =>
        let (frames, stop) := AnyMessage.framesFrom n c
        ((m, c.index) :: frames, stop)
      | .error stop c => ([], some (stop, c.index))

/-- All frames of data. Every frame takes bytes for its identifier, so there are no more frames than
    bytes. -/
def AnyMessage.frames (data : ByteArray) :
    List (AnyMessage × Nat) × Option (Stop DispatchError × Nat) :=
  AnyMessage.framesFrom data.size (.start data)

end WireSchema.Game
