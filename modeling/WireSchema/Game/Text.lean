import WireSchema.Game.Message
import WireSchema.Number.Style

/-!
# Game messages as text

A one-line view of a message: its name, and its fields between braces.
-/

namespace WireSchema.Game

open WireSchema.Number

/-- A list of texts between brackets. -/
def listText (items : List String) : String :=
  "[" ++ ", ".intercalate items ++ "]"

/-- A name with its fields, or the name alone when there are none. -/
def recordText (name : String) (fields : List (String × String)) : String :=
  if fields.isEmpty then name
  else
    name ++ " \x7b " ++ ", ".intercalate (fields.map fun (key, value) => key ++ ": " ++ value) ++
      " \x7d"

/-- A view of a heartbeat. -/
def Heartbeat.toText (m : Heartbeat) : String :=
  recordText "Heartbeat" [("client_clock", toString m.clientClock.toNat)]

/-- A view of a ping. -/
def Ping.toText (_ : Ping) : String :=
  recordText "Ping" []

/-- A view of an item. -/
def Item.toText (m : Item) : String :=
  recordText "Item"
    [("id", toString m.id.toNat), ("label", Text.literal m.label),
     ("count", toString m.count.toNat)]

/-- A view of a truth value. -/
def boolText (b : Bool) : String :=
  if b then "true" else "false"

/-- A view of a player state. -/
def PlayerState.toText (m : PlayerState) : String :=
  recordText "PlayerState"
    [("name", Text.literal m.name),
     ("position", listText (m.position.toList.map (·.toText .literal))),
     ("inventory", listText (m.inventory.map Item.toText)),
     ("reason", m.reason.toText),
     ("team", m.team.toText),
     ("alive", boolText m.alive),
     ("score", toString m.score.toInt)]

/-- A view of a snapshot. -/
def Snapshot.toText (m : Snapshot) : String :=
  recordText "Snapshot"
    [("tick", toString m.tick.toNat),
     ("players", listText (m.players.map PlayerState.toText)),
     ("checksums",
      listText (m.checksums.map fun row => listText (row.toList.map fun b => toString b.toNat))),
     ("server_time", m.serverTime.toText .literal),
     ("drift", toString m.drift.toInt),
     ("lag", toString m.lag.toInt),
     ("offset", toString m.offset.toInt)]

/-- A view of a line of chat. -/
def ChatLine.toText (m : ChatLine) : String :=
  recordText "ChatLine" [("text", Text.literal m.text)]

mutual

/-- A view of a tree. -/
def TreeNode.toText : TreeNode → String
  | ⟨value, children⟩ =>
    recordText "TreeNode"
      [("value", toString value.toNat), ("children", listText (TreeNode.toTexts children))]

/-- Views of trees. -/
def TreeNode.toTexts : List TreeNode → List String
  | [] => []
  | t :: rest => t.toText :: TreeNode.toTexts rest

end

/-- A view of a loadout. -/
def Loadout.toText (m : Loadout) : String :=
  recordText "Loadout"
    [("slot", toString m.slot.toNat),
     ("tags", listText (m.tags.map Text.literal)),
     ("teams", listText (m.teams.map OpenEnum.toText)),
     ("history", listText (m.history.toList.map OpenEnum.toText)),
     ("hands", listText (m.hands.toList.map Item.toText)),
     ("labels", listText (m.labels.toList.map Text.literal)),
     ("flags", listText (m.flags.map boolText)),
     ("stamps", listText (m.stamps.map fun s => toString s.toNat)),
     ("acks", listText (m.acks.toList.map Ping.toText)),
     ("version", toString m.version.toNat)]

/-- A view of the content of a message. -/
def AnyMessage.contentText : AnyMessage → String
  | heartbeat m => m.toText
  | ping m => m.toText
  | playerState m => m.toText
  | item m => m.toText
  | snapshot m => m.toText
  | chatLine m => m.toText
  | treeNode m => m.toText
  | loadout m => m.toText

/-- A view of a message with its name around it. -/
def AnyMessage.toText (m : AnyMessage) : String :=
  m.name ++ "(" ++ m.contentText ++ ")"

end WireSchema.Game
