import WireSchema.Schema.Extract
import WireSchema.Schema.Valid
import WireSchema.Source.Parser

/-!
# The schema of the game

The definitions behind the game messages, as a schema. Values of it can be read and written without
the types of the messages. The schema is what the schema text of the game says (`schemaText`).
-/

namespace WireSchema.Game

open WireSchema.Source

/-- A place in the schema text. -/
def place (line column : Nat) : Location := ⟨"messages.msg", line, column⟩

namespace Decl

/-- Why a player left. -/
def disconnectReason : Enumeration where
  name := "DisconnectReason"
  width := some .w8
  scope := some "Game"
  members :=
    [⟨"Kicked", 0, place 6 9⟩, ⟨"Timeout", 5, place 7 9⟩, ⟨"ServerFull", 6, place 8 9⟩]
  location := place 5 10

/-- The side a player is on. -/
def team : Enumeration where
  name := "Team"
  width := none
  scope := some "Game"
  members := [⟨"Red", 1, place 13 9⟩, ⟨"Blue", 2, place 14 9⟩]
  location := place 12 10

/-- A sign of life. -/
def heartbeat : Message where
  identifier := 1
  name := "Heartbeat"
  marker := false
  scope := some "Game"
  fields := [⟨"clientClock", .primitive (.int ⟨false, .w64⟩), 0, place 18 13⟩]
  location := place 17 13

/-- A message without content. -/
def ping : Message where
  identifier := 2
  name := "Ping"
  marker := true
  scope := some "Game"
  fields := []
  location := place 21 13

/-- What is known about a player. -/
def playerState : Message where
  identifier := 3
  name := "PlayerState"
  marker := false
  scope := some "Game"
  fields := [
    ⟨"name", .primitive .string, 0, place 24 16⟩,
    ⟨"position", .array (.primitive .single) (.fixed 3), 1, place 25 16⟩,
    ⟨"inventory", .array (.named "Item") .counted, 2, place 26 16⟩,
    ⟨"reason", .named "DisconnectReason", 3, place 27 26⟩,
    ⟨"team", .named "Team", 4, place 28 14⟩,
    ⟨"alive", .primitive .bool, 5, place 29 14⟩,
    ⟨"score", .primitive (.int ⟨true, .w32⟩), 6, place 30 13⟩]
  location := place 23 13

/-- A thing that a player carries. -/
def item : Message where
  identifier := 4
  name := "Item"
  marker := false
  scope := some "Game"
  fields := [
    ⟨"id", .primitive (.int ⟨false, .w32⟩), 0, place 34 13⟩,
    ⟨"label", .primitive .string, 1, place 35 16⟩,
    ⟨"count", .primitive (.int ⟨false, .w16⟩), 2, place 36 13⟩]
  location := place 33 13

/-- The state of a session at one tick. -/
def snapshot : Message where
  identifier := 5
  name := "Snapshot"
  marker := false
  scope := some "Game"
  fields := [
    ⟨"tick", .primitive (.int ⟨false, .w32⟩), 0, place 40 13⟩,
    ⟨"players", .array (.named "PlayerState") .counted, 1, place 41 23⟩,
    ⟨"checksums", .array (.array (.primitive (.int ⟨false, .w8⟩)) (.fixed 4)) .counted, 2,
      place 42 17⟩,
    ⟨"serverTime", .primitive .double, 3, place 43 13⟩,
    ⟨"drift", .primitive (.int ⟨true, .w8⟩), 4, place 44 12⟩,
    ⟨"lag", .primitive (.int ⟨true, .w16⟩), 5, place 45 13⟩,
    ⟨"offset", .primitive (.int ⟨true, .w64⟩), 6, place 46 13⟩]
  location := place 39 13

/-- A line of chat. -/
def chatLine : Message where
  identifier := 6
  name := "ChatLine"
  marker := false
  scope := some "Game"
  fields := [⟨"text", .primitive .string, 0, place 50 16⟩]
  location := place 49 13

/-- A tree of numbers, of any depth. -/
def treeNode : Message where
  identifier := 7
  name := "TreeNode"
  marker := false
  scope := some "Game"
  fields := [
    ⟨"value", .primitive (.int ⟨false, .w32⟩), 0, place 54 13⟩,
    ⟨"children", .array (.named "TreeNode") .counted, 1, place 55 20⟩]
  location := place 53 13

/-- What a player starts with. -/
def loadout : Message where
  identifier := 8
  name := "Loadout"
  marker := false
  scope := some "Game"
  fields := [
    ⟨"slot", .primitive (.int ⟨false, .w8⟩), 0, place 59 12⟩,
    ⟨"tags", .array (.primitive .string) .counted, 1, place 60 18⟩,
    ⟨"teams", .array (.named "Team") .counted, 2, place 61 16⟩,
    ⟨"history", .array (.named "DisconnectReason") (.fixed 2), 3, place 62 29⟩,
    ⟨"hands", .array (.named "Item") (.fixed 2), 4, place 63 17⟩,
    ⟨"labels", .array (.primitive .string) (.fixed 3), 5, place 64 19⟩,
    ⟨"flags", .array (.primitive .bool) .counted, 6, place 65 16⟩,
    ⟨"stamps", .array (.primitive (.int ⟨false, .w64⟩)) .counted, 7, place 66 15⟩,
    ⟨"acks", .array (.named "Ping") (.fixed 2), 8, place 67 17⟩,
    ⟨"version", .primitive (.int ⟨false, .w16⟩), 9, place 68 13⟩]
  location := place 58 13

end Decl

/-- The enums and messages of the game. -/
def model : Model where
  scope := some "Game"
  enums := [Decl.disconnectReason, Decl.team]
  messages :=
    [Decl.heartbeat, Decl.ping, Decl.playerState, Decl.item, Decl.snapshot, Decl.chatLine,
     Decl.treeNode, Decl.loadout]

/-- The schema of the game. -/
def schema : Schema := ⟨model, by decide +kernel⟩

/-! ## The text -/

/-- The lines of the schema text. -/
def schemaLines : List String :=
  ["// Messages exchanged between the game client and the session server.",
   "",
   "namespace Game \x7b",
   "",
   "    enum DisconnectReason : u8 \x7b",
   "        Kicked = 0;",
   "        Timeout = 5;",
   "        ServerFull = 6;",
   "    \x7d",
   "",
   "    // No declared width: the smallest one holding every value is used.",
   "    enum Team \x7b",
   "        Red = 1;",
   "        Blue = 2;",
   "    \x7d",
   "",
   "    message Heartbeat = 1 \x7b",
   "        u64 clientClock;",
   "    \x7d",
   "",
   "    message Ping = 2 [marker] \x7b \x7d",
   "",
   "    message PlayerState = 3 \x7b",
   "        string name;",
   "        f32[3] position;",
   "        Item[] inventory;",
   "        DisconnectReason reason;",
   "        Team team;",
   "        bool alive;",
   "        i32 score;",
   "    \x7d",
   "",
   "    message Item = 4 \x7b",
   "        u32 id;",
   "        string label;",
   "        u16 count;",
   "    \x7d",
   "",
   "    message Snapshot = 5 \x7b",
   "        u32 tick;",
   "        PlayerState[] players;",
   "        u8[4][] checksums;",
   "        f64 serverTime;",
   "        i8 drift;",
   "        i16 lag;",
   "        i64 offset;",
   "    \x7d",
   "",
   "    message ChatLine = 6 \x7b",
   "        string text;",
   "    \x7d",
   "",
   "    message TreeNode = 7 \x7b",
   "        u32 value;",
   "        TreeNode[] children;",
   "    \x7d",
   "",
   "    message Loadout = 8 \x7b",
   "        u8 slot;",
   "        string[] tags;",
   "        Team[] teams;",
   "        DisconnectReason[2] history;",
   "        Item[2] hands;",
   "        string[3] labels;",
   "        bool[] flags;",
   "        u64[] stamps;",
   "        Ping[2] acks;",
   "        u16 version;",
   "    \x7d",
   "",
   "    // Not tagged yet, so it is not part of the protocol.",
   "    message Draft \x7b",
   "        u8 unused;",
   "    \x7d",
   "\x7d",
   "",
   "namespace Tools \x7b",
   "    message Trace = 100 \x7b",
   "        string note;",
   "    \x7d",
   "\x7d"]

/-- The schema text of the game. -/
def schemaText : String :=
  String.ofList (schemaLines.flatMap fun line => line.toList ++ ['\n'])

/-- In its namespace, the text defines the enums and messages of the game. -/
example : (parse schemaText "messages.msg").toOption.map
    (fun file => Model.extract [file] (some "Game") none) = some schema.model := by
  rw [parse, tokenize, schemaText, String.toList_ofList]
  decide +kernel

end WireSchema.Game
