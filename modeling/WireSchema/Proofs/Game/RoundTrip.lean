import Mathlib.Tactic.MkIffOfInductiveProp
import WireSchema.Proofs.Game.Recovers
import WireSchema.Proofs.Wire.Conditions

/-!
# Game messages there and back

A message that is written and read under its identifier comes back as it was, wherever its bytes
stand (`AnyMessage.decode_toBytes`). Numbers come back with all their bits, so this holds of NaNs
too; only an enum value that is called unknown must not be declared.

What can go wrong in writing is told by what a message holds (`Contents`): an undeclared integer
that its enum has no room for, or a text or a sequence whose length has no room in its prefix.
-/

namespace WireSchema.Game

open Writer

/-! ## What messages hold -/

/-- The enum values and the texts in a message, and the lengths of its sequences. -/
structure Contents where
  reasons : List (OpenEnum DisconnectReason) := []
  teams : List (OpenEnum Team) := []
  texts : List String := []
  lengths : List Nat := []

namespace Contents

variable {α : Type}

/-- All that two parts of a message hold. -/
def append (x y : Contents) : Contents :=
  ⟨x.reasons ++ y.reasons, x.teams ++ y.teams, x.texts ++ y.texts, x.lengths ++ y.lengths⟩

instance : Append Contents := ⟨append⟩

/-- What elements hold. -/
def ofAll (f : α → Contents) : List α → Contents
  | [] => {}
  | a :: as => f a ++ ofAll f as

/-- What a sequence holds: its length and what its elements hold. -/
def ofSeq (f : α → Contents) (as : List α) : Contents :=
  { lengths := [as.length] } ++ ofAll f as

/-- Nothing. -/
def nothing (_ : α) : Contents := {}

/-- A text. -/
def ofText (t : String) : Contents := { texts := [t] }

/-- Why a player left. -/
def ofReason (v : OpenEnum DisconnectReason) : Contents := { reasons := [v] }

/-- The side a player is on. -/
def ofTeam (v : OpenEnum Team) : Contents := { teams := [v] }

/-- Something that is asked of all that a message holds. -/
structure Test where
  reason : OpenEnum DisconnectReason → Prop
  team : OpenEnum Team → Prop
  text : String → Prop
  length : Nat → Prop

/-- All that is held passes a test. -/
@[mk_iff]
structure Pass (p : Test) (x : Contents) : Prop where
  reasons : ∀ v ∈ x.reasons, p.reason v
  teams : ∀ v ∈ x.teams, p.team v
  texts : ∀ t ∈ x.texts, p.text t
  lengths : ∀ n ∈ x.lengths, p.length n

section

variable {p : Test}

/-- What two parts hold passes if it does in each of them. -/
@[simp]
theorem pass_append {x y : Contents} : (x ++ y).Pass p ↔ x.Pass p ∧ y.Pass p := by
  obtain ⟨reasons, teams, texts, lengths⟩ := x
  obtain ⟨reasons', teams', texts', lengths'⟩ := y
  change (append _ _).Pass p ↔ _
  simp only [pass_iff, append, List.forall_mem_append]
  tauto

/-- A part that holds none of the four passes every test. -/
@[simp]
theorem pass_nothing (a : α) : (nothing a).Pass p := by
  simp [pass_iff, nothing]

@[simp]
theorem pass_ofText {t : String} : (ofText t).Pass p ↔ p.text t := by
  simp [pass_iff, ofText]

@[simp]
theorem pass_ofReason {v : OpenEnum DisconnectReason} : (ofReason v).Pass p ↔ p.reason v := by
  simp [pass_iff, ofReason]

@[simp]
theorem pass_ofTeam {v : OpenEnum Team} : (ofTeam v).Pass p ↔ p.team v := by
  simp [pass_iff, ofTeam]

/-- The contents of a list pass if those of its items do. -/
@[simp]
theorem pass_ofAll {f : α → Contents} {as : List α} :
    (ofAll f as).Pass p ↔ ∀ a ∈ as, (f a).Pass p := by
  induction as with
  | nil => simp [pass_iff, ofAll]
  | cons a as ih => rw [ofAll, pass_append, ih, List.forall_mem_cons]

/-- Of a counted list, the length is tested as well. -/
@[simp]
theorem pass_ofSeq {f : α → Contents} {as : List α} :
    (ofSeq f as).Pass p ↔ p.length as.length ∧ ∀ a ∈ as, (f a).Pass p := by
  rw [ofSeq, pass_append, pass_ofAll]
  simp [pass_iff]

end

/-- Everything has room in its integer or prefix. -/
def fits : Test where
  reason := OpenEnum.Fits
  team := OpenEnum.Fits
  text t := t.utf8ByteSize ≤ Width.w32.unsignedMax
  length n := n ≤ Width.w32.unsignedMax

/-- Nothing that is called unknown is declared. -/
def undeclared : Test where
  reason := OpenEnum.Undeclared
  team := OpenEnum.Undeclared
  text _ := True
  length _ := True

end Contents

open Contents

/-- What an item holds. -/
def Item.contents (m : Item) : Contents := ofText m.label

/-- What a player state holds. -/
def PlayerState.contents (m : PlayerState) : Contents :=
  ofText m.name ++ ofSeq Item.contents m.inventory ++ ofReason m.reason ++ ofTeam m.team

/-- What a snapshot holds. -/
def Snapshot.contents (m : Snapshot) : Contents :=
  ofSeq PlayerState.contents m.players ++ ofSeq nothing m.checksums

mutual

/-- What a tree holds. -/
def TreeNode.contents : TreeNode → Contents
  | ⟨_, children⟩ => { lengths := [children.length] } ++ TreeNode.contentsOfEach children

/-- What trees hold. -/
def TreeNode.contentsOfEach : List TreeNode → Contents
  | [] => {}
  | t :: rest => t.contents ++ TreeNode.contentsOfEach rest

end

/-- A tree holds its counted children, and what they hold. -/
theorem TreeNode.contents_eq (t : TreeNode) : t.contents = ofSeq contents t.children := by
  have heach (ts : List TreeNode) : contentsOfEach ts = ofAll contents ts := by
    induction ts with
    | nil => rfl
    | cons t rest ih => rw [contentsOfEach, ofAll, ih]
  obtain ⟨value, children⟩ := t
  rw [contents, heach]
  rfl

/-- What a loadout holds. -/
def Loadout.contents (m : Loadout) : Contents :=
  ofSeq ofText m.tags ++ ofSeq ofTeam m.teams ++ ofAll ofReason m.history.toList ++
    ofAll Item.contents m.hands.toList ++ ofAll ofText m.labels.toList ++
    ofSeq nothing m.flags ++ ofSeq nothing m.stamps

/-- What a message holds. -/
def AnyMessage.contents : AnyMessage → Contents
  | heartbeat m => nothing m
  | ping m => nothing m
  | playerState m => m.contents
  | item m => m.contents
  | snapshot m => m.contents
  | chatLine m => ofText m.text
  | treeNode m => m.contents
  | loadout m => m.contents

/-! ## Writing -/

/-- The numbers of the reasons and the reasons stand for one another. -/
theorem disconnectReason_exact : WireEnum.Exact DisconnectReason where
  ofValue?_toValue a := by cases a <;> rfl
  toValue_le a := by cases a <;> decide

theorem team_exact : WireEnum.Exact Team where
  ofValue?_toValue a := by cases a <;> rfl
  toValue_le a := by cases a <;> decide

/-- A number can always be written. -/
theorem needs_number (e : ByteArray) : (writeBytes e : Writer EncodeError Unit).Needs True :=
  (writeBytes_writes e).needs

theorem Item.write_needs (m : Item) : m.write.Needs (m.contents.Pass fits) :=
  ((needs_number _).bind <| (writeString_needs _).bind <| needs_number _).allOrNothing.congr <| by
    simp [contents, fits]

/-- A player can be written if its texts and its list of items fit their counts. -/
theorem PlayerState.write_needs (m : PlayerState) : m.write.Needs (m.contents.Pass fits) :=
  ((writeString_needs _).bind <|
    (needs_writeAll fun _ _ => needs_number _).bind <|
    (needs_writeSeq fun i _ => i.write_needs).bind <|
    (OpenEnum.write_needs disconnectReason_exact _).bind <|
    (OpenEnum.write_needs team_exact _).bind <|
    (needs_number _).bind <| needs_number _).allOrNothing.congr <| by
      simp [contents, fits, and_assoc]

/-- A snapshot needs what its players need, and that its lists fit their counts. -/
theorem Snapshot.write_needs (m : Snapshot) : m.write.Needs (m.contents.Pass fits) :=
  ((needs_number _).bind <|
    (needs_writeSeq fun p _ => p.write_needs).bind <|
    (needs_writeSeq fun row _ => needs_writeAll fun _ _ => needs_number _).bind <|
    (needs_number _).bind <| (needs_number _).bind <| (needs_number _).bind <|
    needs_number _).allOrNothing.congr <| by
      simp [contents, fits, and_assoc]

theorem ChatLine.write_needs (m : ChatLine) : m.write.Needs ((ofText m.text).Pass fits) :=
  (writeString_needs _).allOrNothing.congr <| by simp [fits]

/-- A tree can be written if the children fit their count on every level. -/
theorem TreeNode.write_needs : (t : TreeNode) → t.write.Needs (t.contents.Pass fits)
  | ⟨value, children⟩ => by
    have hchildren : ∀ t ∈ children, t.write.Needs (t.contents.Pass fits) :=
      fun t _ => t.write_needs
    rw [write_eq, contents_eq]
    exact ((needs_number _).bind (needs_writeSeq hchildren)).allOrNothing.congr <| by
      simp [fits]

/-- A loadout needs that its texts and lists fit their counts. -/
theorem Loadout.write_needs (m : Loadout) : m.write.Needs (m.contents.Pass fits) :=
  ((needs_number _).bind <|
    (needs_writeSeq fun t _ => writeString_needs t).bind <|
    (needs_writeSeq fun v _ => v.write_needs team_exact).bind <|
    (needs_writeAll fun v _ => v.write_needs disconnectReason_exact).bind <|
    (needs_writeAll fun i _ => i.write_needs).bind <|
    (needs_writeAll fun t _ => writeString_needs t).bind <|
    (needs_writeSeq fun _ _ => needs_number _).bind <|
    (needs_writeSeq fun _ _ => needs_number _).bind <|
    (needs_writeAll fun _ _ => writes_pure.needs).bind <|
    needs_number _).allOrNothing.congr <| by
      simp [contents, fits, and_assoc]

/-- A message can be written exactly if everything in it has room. -/
theorem AnyMessage.write_needs (a : AnyMessage) : a.write.Needs (a.contents.Pass fits) := by
  cases a with
  | heartbeat m => exact (needs_number _).allOrNothing.congr (by simp [contents])
  | ping m => exact writes_pure.needs.congr (by simp [contents])
  | playerState m => exact m.write_needs
  | item m => exact m.write_needs
  | snapshot m => exact m.write_needs
  | chatLine m => exact m.write_needs
  | treeNode m => exact m.write_needs
  | loadout m => exact m.write_needs

/-! ## Reading -/

/-- A function that keeps every item keeps the list. -/
theorem map_eq_self {α : Type} {f : α → α} {as : List α} (h : ∀ a ∈ as, f a = a) : as.map f = as :=
  (List.map_congr_left h).trans (List.map_id as)

/-- A player with no declared number among its unknown ones is settled already. -/
theorem PlayerState.settle_eq {m : PlayerState} (h : m.contents.Pass undeclared) :
    m.settle = m := by
  simp only [contents, pass_append, pass_ofReason, pass_ofTeam] at h
  obtain ⟨⟨-, hreason⟩, hteam⟩ := h
  rw [settle, OpenEnum.settle_eq disconnectReason_exact hreason,
    OpenEnum.settle_eq team_exact hteam]

theorem Snapshot.settle_eq {m : Snapshot} (h : m.contents.Pass undeclared) : m.settle = m := by
  simp only [contents, pass_append, pass_ofSeq] at h
  obtain ⟨⟨-, hplayers⟩, -⟩ := h
  rw [settle, map_eq_self fun p hp => PlayerState.settle_eq (hplayers p hp)]

theorem Loadout.settle_eq {m : Loadout} (h : m.contents.Pass undeclared) : m.settle = m := by
  simp only [contents, pass_append, pass_ofSeq, pass_ofAll, pass_ofReason, pass_ofTeam] at h
  obtain ⟨⟨⟨⟨⟨⟨-, -, hteams⟩, hhistory⟩, -⟩, -⟩, -⟩, -⟩ := h
  have hvector : m.history.map OpenEnum.settle = m.history := by
    rw [← Vector.toList_inj, Vector.toList_map]
    exact map_eq_self fun v hv => OpenEnum.settle_eq disconnectReason_exact (hhistory v hv)
  rw [settle, hvector, map_eq_self fun v hv => OpenEnum.settle_eq team_exact (hteams v hv)]

/-- A message whose unknown numbers are all undeclared is settled already. -/
theorem AnyMessage.settle_eq {a : AnyMessage} (h : a.contents.Pass undeclared) : a.settle = a := by
  cases a with
  | playerState m => rw [settle, PlayerState.settle_eq h]
  | snapshot m => rw [settle, Snapshot.settle_eq h]
  | loadout m => rw [settle, Loadout.settle_eq h]
  | heartbeat | ping | item | chatLine | treeNode => rfl

/-- A message is read back from its bytes, with any others in front of them and behind them, if no
    enum value in it is called unknown that is declared. And it has bytes unless an unknown integer
    exceeds the width of its enum, or a text or a sequence is too long for its prefix. -/
theorem AnyMessage.decode_toBytes (a : AnyMessage) :
    ((∀ raw, .unknown raw ∈ a.contents.reasons →
        (WireEnum.ofValue? raw : Option DisconnectReason) = none) →
      (∀ raw, .unknown raw ∈ a.contents.teams → (WireEnum.ofValue? raw : Option Team) = none) →
      ∀ b, a.toBytes = .ok b → ∀ front behind : ByteArray,
        registry.decode a.id ⟨front ++ b ++ behind, front.size⟩ =
          .ok a ⟨front ++ b ++ behind, front.size + b.size⟩) ∧
    ((∃ e, a.toBytes = .error e) ↔
      (∃ raw, .unknown raw ∈ a.contents.reasons ∧
        (WireEnum.width DisconnectReason).unsignedMax < raw.toNat) ∨
      (∃ raw, .unknown raw ∈ a.contents.teams ∧ (WireEnum.width Team).unsignedMax < raw.toNat) ∨
      (∃ t ∈ a.contents.texts, Width.w32.unsignedMax < t.utf8ByteSize) ∨
      ∃ n ∈ a.contents.lengths, Width.w32.unsignedMax < n) := by
  refine ⟨fun hreasons hteams b hb front behind => ?_, ?_⟩
  · have hpass : a.contents.Pass undeclared :=
      ⟨OpenEnum.forall_unknown_iff.2 hreasons, OpenEnum.forall_unknown_iff.2 hteams,
        fun _ _ => trivial, fun _ _ => trivial⟩
    have hrecovers := a.read_recovers (b.size + 1)
    have hwrites := hrecovers.appends.toBytes_eq_ok_iff.1 hb
    -- What is read has its enum values settled, and they are settled already.
    rw [settle_eq hpass] at hrecovers
    exact hrecovers.accepts hwrites (Nat.lt_succ_self _) (.between front b behind)
  · rw [toBytes, a.write_needs.toBytes_isError_iff, pass_iff]
    simp only [fits, OpenEnum.Fits, OpenEnum.forall_unknown_iff, not_and_or, not_forall, Nat.not_le,
      exists_prop]

/-- A player with a coordinate that is a NaN and a reason that is not declared. -/
def oddPlayer : PlayerState where
  name := "é"
  position := #v[⟨0x7fc00001⟩, ⟨0⟩, ⟨0⟩]
  inventory := [⟨7, "", 1⟩]
  reason := .unknown 7
  team := .known .blue
  alive := true
  score := -1

/-- A player with an unknown reason, a NaN and a text beyond ASCII comes back from the middle of
    other bytes. -/
theorem AnyMessage.decode_toBytes_oddPlayer :
    let b : ByteArray := ⟨#[2, 0, 0, 0, 195, 169, 1, 0, 192, 127, 0, 0, 0, 0, 0, 0, 0, 0, 1, 0, 0,
      0, 7, 0, 0, 0, 0, 0, 0, 0, 1, 0, 7, 2, 1, 255, 255, 255, 255]⟩
    (playerState oddPlayer).toBytes = .ok b ∧ ∀ front behind : ByteArray,
      registry.decode 3 ⟨front ++ b ++ behind, front.size⟩ =
        .ok (playerState oddPlayer) ⟨front ++ b ++ behind, front.size + b.size⟩ := by
  intro b
  have hb : (playerState oddPlayer).toBytes = .ok b := by decide +kernel
  have hreasons : ∀ raw, .unknown raw ∈ (playerState oddPlayer).contents.reasons →
      (WireEnum.ofValue? raw : Option DisconnectReason) = none := by
    intro raw hraw
    cases List.mem_singleton.1 hraw
    rfl
  have hteams : ∀ raw, .unknown raw ∈ (playerState oddPlayer).contents.teams →
      (WireEnum.ofValue? raw : Option Team) = none := by
    intro raw hraw
    cases List.mem_singleton.1 hraw
  exact ⟨hb, (decode_toBytes (playerState oddPlayer)).1 hreasons hteams b hb⟩

end WireSchema.Game
