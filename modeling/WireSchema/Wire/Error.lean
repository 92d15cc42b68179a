import WireSchema.Text.Quoted
import WireSchema.Wire.Width

/-!
# Errors of encoding and decoding

Each error names its cause; `message` is the one place that puts it into words.
-/

namespace WireSchema

/-- Why a value cannot be written. Nothing is ever cut off or wrapped around silently. -/
inductive EncodeError
  /-- An integer is not of the type it is written as. -/
  | outOfRange (value : Int) (type : IntType)
  /-- A length does not fit the prefix that announces it. -/
  | lengthOverflow (length : Nat)
  /-- An array has not the length that its kind fixes. -/
  | lengthMismatch (expected actual : Nat)
deriving DecidableEq

/-- An encoding error in words. -/
def EncodeError.message : EncodeError → String
  | outOfRange value type => s!"value {value} is out of range for {type.name}"
  | lengthOverflow length => s!"length {length} does not fit in the u32 length prefix"
  | lengthMismatch expected actual =>
    s!"fixed array expects {expected} elements but {actual} were supplied"

/-- Why bytes cannot be read. Reading never goes past the end of the data. -/
inductive DecodeError
  /-- The data ends before what is to be read. -/
  | truncated (offset needed remaining : Nat)
  /-- A length prefix announces more than the data holds. -/
  | lengthOverrun (offset claimed remaining : Nat)
  /-- A truth value is neither zero nor one. -/
  | invalidBool (offset : Nat) (byte : UInt8)
  /-- The bytes of a text are not UTF-8. -/
  | invalidUtf8 (offset : Nat)
deriving DecidableEq

/-- A decoding error in words. -/
def DecodeError.message : DecodeError → String
  | truncated offset needed remaining =>
    s!"buffer truncated at offset {offset}: needed {needed} bytes, {remaining} remaining"
  | lengthOverrun offset claimed remaining =>
    s!"length prefix at offset {offset} claims {claimed} bytes but only {remaining} remain"
  | invalidBool offset byte =>
    let digits := String.ofList (Text.hexPadded 2 byte.toNat)
    s!"invalid bool byte 0x{digits} at offset {offset}"
  | invalidUtf8 offset => s!"string at offset {offset} is not valid UTF-8"

/-- Why a frame cannot be dispatched by its identifier. -/
inductive DispatchError
  /-- No message has the identifier. -/
  | unknownId (id : UInt32)
  /-- The message of the identifier cannot be read. -/
  | decode (error : DecodeError)
deriving DecidableEq

/-- A dispatch error in words. -/
def DispatchError.message : DispatchError → String
  | unknownId id => s!"no message is registered for identifier {id.toNat}"
  | decode error => error.message

end WireSchema
