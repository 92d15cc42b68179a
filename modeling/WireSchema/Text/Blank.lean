import WireSchema.Text.CharRange

/-!
# Blanks

The characters with the property White_Space: the blanks and line breaks that may stand between
two tokens.
-/

namespace WireSchema.Text

/-- Blanks beyond ASCII. -/
def blankTable : List CharRange :=
  [⟨0x85, 0x85, 1⟩, ⟨0xa0, 0xa0, 1⟩, ⟨0x1680, 0x1680, 1⟩, ⟨0x2000, 0x200a, 1⟩, ⟨0x2028, 0x2029, 1⟩,
   ⟨0x202f, 0x202f, 1⟩, ⟨0x205f, 0x205f, 1⟩, ⟨0x3000, 0x3000, 1⟩]

/-- Is `c` a blank or a line break? In ASCII these are the space and the five controls from the
    tab to the carriage return. -/
def isBlank (c : Char) : Bool :=
  if isAscii c then c == ' ' || ('\t' ≤ c && c ≤ '\r') else inTable blankTable c

end WireSchema.Text
