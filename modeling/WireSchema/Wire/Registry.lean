import WireSchema.Wire.Reader

/-!
# Registries

A registry finds the reader of a message by its identifier. Its entries are sorted by identifier, so
that they can be searched by halving.
-/

namespace WireSchema

/-- One message of a registry. -/
structure Registry.Entry (μ : Type) where
  /-- The identifier of the message. -/
  id : UInt32
  /-- The name of the message. -/
  name : String
  /-- Reads the message. -/
  decode : Reader DecodeError μ

/-- Messages by identifier. -/
structure Registry (μ : Type) where
  /-- The messages, sorted by identifier. -/
  entries : Array (Registry.Entry μ)

namespace Registry

variable {μ : Type}

/-- Halves the `size` entries from `base` on until one is left, which is the last of them whose
    identifier is not above `id` when there is one. -/
def bisect (entries : Array (Entry μ)) (id : UInt32) (base size : Nat) : Nat :=
  if size ≤ 1 then base
  else
    let half := size / 2
    let middle := base + half
    let above := entries[middle]?.any fun e => id < e.id
    bisect entries id (if above then base else middle) (size - half)
termination_by size
decreasing_by omega

/-- The entry with a given identifier. -/
def get? (r : Registry μ) (id : UInt32) : Option (Entry μ) :=
  r.entries[bisect r.entries id 0 r.entries.size]?.filter fun e => e.id == id

/-- Has an entry the given identifier? -/
def contains (r : Registry μ) (id : UInt32) : Bool :=
  (r.get? id).isSome

/-- The identifiers of the entries, in order. -/
def ids (r : Registry μ) : List UInt32 :=
  r.entries.toList.map Entry.id

/-- Reads the message with a given identifier. -/
def decode (r : Registry μ) (id : UInt32) : Reader DispatchError μ :=
  match r.get? id with
  | none => Reader.fail (.unknownId id)
  | some e => e.decode.mapError .decode

/-- Reads a frame, whose identifier has been read already. -/
def decodeFrame (r : Registry μ) (id : UInt32) (payload : ByteArray) :
    Except (Stop DispatchError) μ :=
  (r.decode id).result (.start payload)

/-- A one-line view of an entry. -/
def Entry.toText (e : Entry μ) : String :=
  s!"RegistryEntry \x7b id: {e.id.toNat}, name: {Text.literal e.name}, .. \x7d"

/-- A one-line view of a registry. -/
def toText (r : Registry μ) : String :=
  "[" ++ ", ".intercalate (r.entries.toList.map Entry.toText) ++ "]"

end Registry

end WireSchema
