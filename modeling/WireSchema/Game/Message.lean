import WireSchema.Wire.OpenEnum

/-!
# Game messages

The messages between a game client and its session server, one type each. Arrays of fixed length are
vectors, sequences are lists, and enums are open.
-/

namespace WireSchema.Game

open WireSchema.Number

/-- Why a player left. -/
inductive DisconnectReason
  | kicked
  | timeout
  | serverFull
deriving DecidableEq

instance : WireEnum DisconnectReason where
  name := "DisconnectReason"
  width := .w8
  toValue
    | .kicked => 0
    | .timeout => 5
    | .serverFull => 6
  ofValue? raw :=
    if raw = 0 then some .kicked
    else if raw = 5 then some .timeout
    else if raw = 6 then some .serverFull
    else none
  memberName
    | .kicked => "Kicked"
    | .timeout => "Timeout"
    | .serverFull => "ServerFull"

/-- The side a player is on. -/
inductive Team
  | red
  | blue
deriving DecidableEq

instance : WireEnum Team where
  name := "Team"
  width := .w8
  toValue
    | .red => 1
    | .blue => 2
  ofValue? raw :=
    if raw = 1 then some .red
    else if raw = 2 then some .blue
    else none
  memberName
    | .red => "Red"
    | .blue => "Blue"

/-- A sign of life. -/
structure Heartbeat where
  clientClock : UInt64
deriving DecidableEq

/-- A message without content. -/
structure Ping where
deriving DecidableEq

/-- A thing that a player carries. -/
structure Item where
  id : UInt32
  label : String
  count : UInt16
deriving DecidableEq

/-- What is known about a player. -/
structure PlayerState where
  name : String
  position : Vector Single 3
  inventory : List Item
  reason : OpenEnum DisconnectReason
  team : OpenEnum Team
  alive : Bool
  score : Int32
deriving DecidableEq

/-- The state of a session at one tick. -/
structure Snapshot where
  tick : UInt32
  players : List PlayerState
  checksums : List (Vector UInt8 4)
  serverTime : Double
  drift : Int8
  lag : Int16
  offset : Int64
deriving DecidableEq

/-- A line of chat. -/
structure ChatLine where
  text : String
deriving DecidableEq

/-- A tree of numbers, of any depth. -/
structure TreeNode where
  value : UInt32
  children : List TreeNode

/-- What a player starts with. -/
structure Loadout where
  slot : UInt8
  tags : List String
  teams : List (OpenEnum Team)
  history : Vector (OpenEnum DisconnectReason) 2
  hands : Vector Item 2
  labels : Vector String 3
  flags : List Bool
  stamps : List UInt64
  acks : Vector Ping 2
  version : UInt16
deriving DecidableEq

/-- Any message of the game. -/
inductive AnyMessage
  | heartbeat (message : Heartbeat)
  | ping (message : Ping)
  | playerState (message : PlayerState)
  | item (message : Item)
  | snapshot (message : Snapshot)
  | chatLine (message : ChatLine)
  | treeNode (message : TreeNode)
  | loadout (message : Loadout)

/-- The identifier of a message. -/
def AnyMessage.id : AnyMessage → UInt32
  | heartbeat _ => 1
  | ping _ => 2
  | playerState _ => 3
  | item _ => 4
  | snapshot _ => 5
  | chatLine _ => 6
  | treeNode _ => 7
  | loadout _ => 8

/-- The name of a message. -/
def AnyMessage.name : AnyMessage → String
  | heartbeat _ => "Heartbeat"
  | ping _ => "Ping"
  | playerState _ => "PlayerState"
  | item _ => "Item"
  | snapshot _ => "Snapshot"
  | chatLine _ => "ChatLine"
  | treeNode _ => "TreeNode"
  | loadout _ => "Loadout"

end WireSchema.Game
