import WireSchema.Proofs.Game.Recovers
import WireSchema.Proofs.Value.Write

/-!
# Messages are written whole or not at all

What cannot be written leaves the bytes written before it as they were, and what can be written only
appends to them (`Writer.Atomic`). This holds of dynamic values of any kind and of the messages of
the game, also where messages hold others that cut back on their own: a scope that was cut back
inside another one has appended nothing, so the outer scope still ends where it can cut.
-/

namespace WireSchema

open Writer

/-- Encoding a value of any kind writes all of it or leaves the bytes as they were. -/
theorem Value.encodeField_atomic (s : Schema) (v : Value) (kind : Kind) :
    (v.encodeField s kind).Atomic :=
  (v.write_appends s kind).allOrNothing.atomic

namespace Game

/-- Every message of the game is written whole or not at all. -/
theorem AnyMessage.write_atomic (a : AnyMessage) : a.write.Atomic := by
  have happends : a.write.Appends := (a.read_recovers 0).appends
  cases a with
  | ping => exact atomic_pure
  | treeNode t =>
    rw [write, TreeNode.write_eq] at happends ⊢
    exact happends.atomic
  | heartbeat | playerState | item | snapshot | chatLine | loadout =>
    dsimp only [write, Heartbeat.write, PlayerState.write, Item.write, Snapshot.write,
      ChatLine.write, Loadout.write] at happends ⊢
    exact happends.atomic

/-- A value of any kind and a message of any type either append their bytes, which hang on nothing
    written before, or leave the bytes as they were. -/
theorem encode_atomic :
    (∀ (s : Schema) (v : Value) (kind : Kind), (v.encodeField s kind).Atomic) ∧
    (∀ m : Heartbeat, m.write.Atomic) ∧
    (∀ m : Ping, m.write.Atomic) ∧
    (∀ m : PlayerState, m.write.Atomic) ∧
    (∀ m : Item, m.write.Atomic) ∧
    (∀ m : Snapshot, m.write.Atomic) ∧
    (∀ m : ChatLine, m.write.Atomic) ∧
    (∀ m : TreeNode, m.write.Atomic) ∧
    (∀ m : Loadout, m.write.Atomic) ∧
    (∀ a : AnyMessage, a.write.Atomic) :=
  ⟨Value.encodeField_atomic, fun m => (AnyMessage.heartbeat m).write_atomic,
    fun m => (AnyMessage.ping m).write_atomic, fun m => (AnyMessage.playerState m).write_atomic,
    fun m => (AnyMessage.item m).write_atomic, fun m => (AnyMessage.snapshot m).write_atomic,
    fun m => (AnyMessage.chatLine m).write_atomic, fun m => (AnyMessage.treeNode m).write_atomic,
    fun m => (AnyMessage.loadout m).write_atomic, AnyMessage.write_atomic⟩

/-- A snapshot whose second player cannot be written: the team has no room in its byte. -/
def halfBadSnapshot : Snapshot :=
  let player : PlayerState :=
    ⟨"ada", #v[⟨0⟩, ⟨0⟩, ⟨0⟩], [⟨7, "lamp", 1⟩], .known .kicked, .known .red, true, 0⟩
  ⟨1, [player, { player with team := .unknown 300 }], [], ⟨0⟩, 0, 0, 0⟩

-- The first player and most of the second are written before the failure, and cut off again.
example :
    (match halfBadSnapshot.write [1, 2].toByteArray with
      | .ok _ _ => false
      | .error e b => e = .outOfRange 300 ⟨false, .w8⟩ && b = [1, 2].toByteArray) = true := by
  decide +kernel

end Game

end WireSchema
