import WireSchema.Proofs.Value.Canonical
import WireSchema.Proofs.Value.SameWire
import WireSchema.Schema.Extract

/-!
# New members of enums

Members give names to the integers of an enum. The wire carries the integers, and a reader keeps
those that no member has. So members can be added to an enum, or taken away, as long as its width
stays: two schemas that differ in nothing but members have the same wire format
(`codec_of_members`).

The width of an enum is a matter of its members only when none is declared and there is no default.
-/

namespace WireSchema

open Reader Writer

/-! ## Schemas without members -/

/-- An enum with its members left out. -/
def Enumeration.withoutMembers (e : Enumeration) : Enumeration :=
  { e with members := [] }

/-- A model with the members of all enums left out. -/
def Model.withoutMembers (model : Model) : Model :=
  { model with enums := model.enums.map Enumeration.withoutMembers }

namespace Schema

variable {s t : Schema}

/-- Two schemas are equal but for the members of their enums. -/
def SameButMembers (s t : Schema) : Prop :=
  s.model.withoutMembers = t.model.withoutMembers

/-- The enums of two schemas have the same widths on the wire. -/
def SameWidths (s t : Schema) : Prop :=
  s.enums.map Enumeration.wireWidth = t.enums.map Enumeration.wireWidth

/-- Schemas that differ in members have the same messages. -/
theorem SameButMembers.messages_eq (h : s.SameButMembers t) :
    s.model.messages = t.model.messages := by
  have heq := congrArg Model.messages h
  exact heq

/-- Schemas that differ in members have the same enums, but for the members. -/
theorem SameButMembers.enums_eq (h : s.SameButMembers t) :
    s.enums.map Enumeration.withoutMembers = t.enums.map Enumeration.withoutMembers := by
  have heq := congrArg Model.enums h
  exact heq

end Schema

/-! ## Widths -/

/-- An enum with a declared width has it whatever its members are. -/
theorem Enumeration.wireWidth_withoutMembers {e : Enumeration} (h : e.width ≠ none) :
    e.withoutMembers.wireWidth = e.wireWidth := by
  obtain ⟨w, hw⟩ := Option.ne_none_iff_exists'.1 h
  rw [wireWidth, wireWidth, withoutMembers, hw]
  rfl

/-- Where widths are declared, they do not depend on the members. -/
theorem map_wireWidth_withoutMembers {es : List Enumeration} (h : ∀ e ∈ es, e.width ≠ none) :
    (es.map Enumeration.withoutMembers).map Enumeration.wireWidth =
      es.map Enumeration.wireWidth := by
  rw [List.map_map]
  exact List.map_congr_left fun e he => Enumeration.wireWidth_withoutMembers (h e he)

/-- Where widths are declared, members make no difference to them. -/
theorem Schema.SameButMembers.sameWidths {s t : Schema} (h : s.SameButMembers t)
    (hwidth : ∀ e ∈ s.enums, e.width ≠ none) : s.SameWidths t := by
  -- Declared widths are among what both schemas share.
  have hwidth' : ∀ e ∈ t.enums, e.width ≠ none := by
    intro e he
    have hmem : e.withoutMembers ∈ s.enums.map Enumeration.withoutMembers :=
      h.enums_eq ▸ List.mem_map_of_mem he
    obtain ⟨e', he', heq⟩ := List.mem_map.1 hmem
    have hsame := congrArg Enumeration.width heq
    change e'.width = e.width at hsame
    exact hsame ▸ hwidth e' he'
  rw [SameWidths, ← map_wireWidth_withoutMembers hwidth, h.enums_eq,
    map_wireWidth_withoutMembers hwidth']

/-- With a default width every enum has a width. -/
theorem Model.width_extract_ne_none {files : List Source.SourceFile} {scope : Option String}
    {w : Width} {e : Enumeration} (he : e ∈ (Model.extract files scope (some w)).enums) :
    e.width ≠ none := by
  obtain ⟨file, -, he⟩ := List.mem_flatMap.1 he
  obtain ⟨d, -, hd⟩ := List.mem_filterMap.1 he
  cases hbody : d.body with
  | message id marker fields =>
    rw [hbody] at hd
    cases hd
  | enum width members =>
    rw [hbody] at hd
    cases hd
    cases width <;> exact Option.some_ne_none _

/-! ## Look-up -/

theorem find?_enumeration_alike {es es' : List Enumeration}
    (h : es.map Enumeration.withoutMembers = es'.map Enumeration.withoutMembers)
    (hwidth : es.map Enumeration.wireWidth = es'.map Enumeration.wireWidth) (name : String) :
    TypeRef.Alike ((es.find? fun e => e.name == name).map .enumeration)
      ((es'.find? fun e => e.name == name).map .enumeration) := by
  induction es generalizing es' with
  | nil =>
    rw [List.map_nil, List.nil_eq, List.map_eq_nil_iff] at h
    rw [h]
    exact .none
  | cons e es ih =>
    cases es' with
    | nil => cases h
    | cons e' es' =>
      rw [List.map_cons, List.map_cons, List.cons.injEq] at h hwidth
      have hname := congrArg Enumeration.name h.1
      change e.name = e'.name at hname
      rw [List.find?_cons, List.find?_cons, ← hname]
      cases e.name == name with
      | true => exact .enumeration hname hwidth.1
      | false => exact ih h.2 hwidth.2

/-- Schemas that differ in nothing but members have the same wire format where the widths of their
    enums agree. -/
theorem Schema.SameButMembers.sameWire {s t : Schema} (h : s.SameButMembers t)
    (hwidth : s.SameWidths t) : s.SameWire t where
  length_eq := congrArg List.length h.messages_eq
  message?_eq name := by
    rw [message?, message?, Model.message?, Model.message?, h.messages_eq]
  messageById?_eq id := by
    rw [messageById?, messageById?, Model.messageById?, Model.messageById?, h.messages_eq]
  resolve?_alike name := by
    have hmessage : s.model.message? name = t.model.message? name := by
      rw [Model.message?, Model.message?, h.messages_eq]
    rw [resolve?, resolve?, Model.resolve?, Model.resolve?, hmessage]
    cases t.model.message? name with
    | some m => exact .message m
    | none =>
      have hs : s.model.enumeration? name = s.enums.find? fun e => e.name == name :=
        lookUp?_eq_find? s.nodup_enumNames name
      have ht : t.model.enumeration? name = t.enums.find? fun e => e.name == name :=
        lookUp?_eq_find? t.nodup_enumNames name
      rw [hs, ht]
      exact find?_enumeration_alike h.enums_eq hwidth name

/-! ## Integers of enums -/

variable {s : Schema} {e : Enumeration} {n : Nat}

/-- The integers of an enum are laid out by its width, whether a member has them or not. -/
theorem layout_enumeration (he : e ∈ s.enums) (hn : n ≤ e.wireWidth.unsignedMax) :
    Layout s (.named e.name) (.enumeration e.name (UInt64.ofNat n))
      (leBytes e.wireWidth.bytes n).toByteArray :=
  .enumeration (Schema.resolve?_enumeration_of_mem he) hn

/-- Every integer of the width is read as an enum value, whether a member has it or not. -/
theorem readField_enumeration (he : e ∈ s.enums) (hn : n ≤ e.wireWidth.unsignedMax) :
    (Value.readField s (.named e.name)).Accepts (.enumeration e.name (UInt64.ofNat n))
      (leBytes e.wireWidth.bytes n).toByteArray := by
  intro c c' hspan
  have hread := ((readUInt_accepts hn).mapError ValueError.decode) hspan
  rw [Value.readField, Run.get_bind, Kind.read, Schema.resolve?_enumeration_of_mem he]
  exact Run.bind_of_ok hread _

/-- Every integer of the width is written as an enum value, whether a member has it or not. -/
theorem encodeField_enumeration (he : e ∈ s.enums) (hn : n ≤ e.wireWidth.unsignedMax) :
    ((Value.enumeration e.name (UInt64.ofNat n)).encodeField s (.named e.name)).Writes
      (leBytes e.wireWidth.bytes n).toByteArray := by
  refine Writes.allOrNothing ((layout_enumeration he hn).writes fun hnan => ?_)
  cases hnan.holdsNaN

/-! ## The wire format -/

/-- Members can be added to enums without breaking peers. Of two schemas that are equal but for the
    members of their enums, and whose enums have the same widths, each reads all messages as the
    other does, with the same values, ends and errors, and writes all values to the same bytes or
    with the same errors. An integer that fits an enum is kept and written as it was, whether a
    member has it or not; and a message that one of them reads is read by the other and encoded as
    the bytes it was read from. The widths agree where they are declared or there is a default. -/
theorem codec_of_members {s t : Schema} (h : s.SameButMembers t) :
    (s.SameWidths t →
      (∀ m, Value.readMessage s m = Value.readMessage t m) ∧
      (∀ name data, Value.decode s name data = Value.decode t name data) ∧
      (∀ id data, Value.decodeFrame s id data = Value.decodeFrame t id data) ∧
      (∀ v : Value, v.encode s = v.encode t) ∧
      (∀ (v : Value) kind, v.encodeField s kind = v.encodeField t kind) ∧
      ∀ m ∈ t.messages, ∀ (c c' : Cursor) (v : Value), c.index ≤ c.data.size →
        Value.readMessage t m c = .ok v c' → ¬v.SingleNaN t (.named m.name) →
        Value.readMessage s m c = .ok v c' ∧
          v.encode s = .ok (c.data.extract c.index c'.index)) ∧
    (∀ e ∈ s.enums, ∀ n ≤ e.wireWidth.unsignedMax,
      let v := Value.enumeration e.name (UInt64.ofNat n)
      let bytes := (leBytes e.wireWidth.bytes n).toByteArray
      (Value.readField s (.named e.name)).Accepts v bytes ∧
        (v.encodeField s (.named e.name)).Writes bytes) ∧
    ((∀ e ∈ s.enums, e.width ≠ none) → s.SameWidths t) ∧
    ∀ files scope w, s.model = .extract files scope (some w) → s.SameWidths t := by
  refine ⟨fun hwidth => ?_, fun e he n hn => ⟨readField_enumeration he hn,
    encodeField_enumeration he hn⟩, h.sameWidths, fun files scope w hmodel => ?_⟩
  · have hsame := h.sameWire hwidth
    refine ⟨hsame.readMessage_eq, hsame.decode_eq, hsame.decodeFrame_eq, hsame.encode_eq,
      fun v kind => ?_, fun m hm c c' v hc hread hnan => ?_⟩
    · rw [Value.encodeField, Value.encodeField, hsame.write_eq]
    · rw [hsame.readMessage_eq, hsame.encode_eq]
      exact ⟨hread, Value.encode_of_readMessage hm hc hread hnan⟩
  · -- Where a default is given, no enum is left without a width of its own.
    refine h.sameWidths fun e he => ?_
    have hmem : e ∈ s.model.enums := he
    rw [hmodel] at hmem
    exact Model.width_extract_ne_none hmem

/-- The schema of the game before there was a blue team and a server could be full. -/
def Game.olderSchema : Schema where
  model := { Game.model with enums :=
    [{ Decl.disconnectReason with
       members := [⟨"Kicked", 0, place 6 9⟩, ⟨"Timeout", 5, place 7 9⟩] },
     { Decl.team with members := [⟨"Red", 1, place 13 9⟩] }] }
  valid := by decide +kernel

/-- The older schema reads a team it has no name for, and writes it back. -/
theorem codec_of_members_olderSchema :
    Game.olderSchema.SameButMembers Game.schema ∧ Game.olderSchema.SameWidths Game.schema ∧
    ∃ v c, Value.readMessage Game.olderSchema Game.Decl.playerState (.start Value.playerData) =
        .ok v c ∧
      (v.get? "team").bind (Value.enumMember? Game.schema) = some "Blue" ∧
      (v.get? "team").bind (Value.enumMember? Game.olderSchema) = none ∧
      v.encode Game.olderSchema = .ok (Value.playerData.extract 0 c.index) := by
  have hsame : Game.olderSchema.SameButMembers Game.schema := rfl
  have hwidth : Game.olderSchema.SameWidths Game.schema := rfl
  have hplayer : Game.Decl.playerState ∈ Game.schema.messages := by
    simp [Schema.messages, Game.schema, Game.model]
  have hread : (Value.readMessage Game.schema Game.Decl.playerState).succeeds
      (.start Value.playerData) (fun v _ => !v.holdsNaN &&
        ((v.get? "team").bind (Value.enumMember? Game.schema) == some "Blue" &&
          (v.get? "team").bind (Value.enumMember? Game.olderSchema) == none)) = true := by
    decide +kernel
  obtain ⟨v, c, h, htest⟩ := Reader.exists_of_succeeds hread
  obtain ⟨hnan, hblue⟩ := Bool.and_eq_true_iff.1 htest
  obtain ⟨hblue, hnone⟩ := Bool.and_eq_true_iff.1 hblue
  obtain ⟨-, -, -, -, -, hmessage⟩ := (codec_of_members hsame).1 hwidth
  obtain ⟨hread, hencode⟩ := hmessage _ hplayer (.start Value.playerData) c v (Nat.zero_le _) h
    fun hv => by
      rw [hv.holdsNaN] at hnan
      cases hnan
  exact ⟨hsame, hwidth, v, c, hread, eq_of_beq hblue, eq_of_beq hnone, hencode⟩

end WireSchema
