import WireSchema.Wire.Reader
import WireSchema.Wire.Writer

/-!
# Open enums

An enum on the wire is an integer. A receiver that does not know a member keeps its integer, so that
messages of newer senders can be read and passed on unchanged.
-/

namespace WireSchema

/-- A type of enum members with their integers. -/
class WireEnum (α : Type) where
  /-- The name of the enum. -/
  name : String
  /-- The width of its integers. -/
  width : Width
  /-- The integer of a member. -/
  toValue : α → UInt64
  /-- The member of an integer. -/
  ofValue? : UInt64 → Option α
  /-- The name of a member. -/
  memberName : α → String

/-- An enum as it arrives: a member, or an integer that belongs to none. -/
inductive OpenEnum (α : Type)
  /-- A declared member. -/
  | known (member : α)
  /-- The integer of a member that is not declared here. -/
  | unknown (raw : UInt64)
deriving DecidableEq

namespace OpenEnum

variable {α : Type}

/-- The member, if it is declared. -/
def known? : OpenEnum α → Option α
  | known member => some member
  | unknown _ => none

/-- Is the member not declared? -/
def isUnknown : OpenEnum α → Bool
  | known _ => false
  | unknown _ => true

variable [WireEnum α]

/-- The enum value with a given integer. -/
def ofRaw (raw : UInt64) : OpenEnum α :=
  match WireEnum.ofValue? raw with
  | some member => known member
  | none => unknown raw

/-- The integer of an enum value. -/
def raw : OpenEnum α → UInt64
  | known member => WireEnum.toValue member
  | unknown raw => raw

/-- A one-line view of an enum value. -/
def toText : OpenEnum α → String
  | known member => "Known(" ++ WireEnum.memberName member ++ ")"
  | unknown raw => s!"Unknown({raw.toNat})"

variable (α) in
/-- Reads an enum value with the width of its enum. -/
def read : Reader DecodeError (OpenEnum α) := do
  let raw ← readUInt (WireEnum.width α)
  return ofRaw raw.toUInt64

/-- Appends an enum value with the width of its enum, which an undeclared integer may exceed. -/
def write (v : OpenEnum α) : Writer EncodeError Unit :=
  writeUInt (WireEnum.width α) v.raw.toNat

end OpenEnum

end WireSchema
