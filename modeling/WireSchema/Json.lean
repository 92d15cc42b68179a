import WireSchema.Number.Style
import WireSchema.Text.Quoted

/-!
# JSON

JSON trees and their two written forms: on one line without blanks, and spread over lines with two
blanks of indentation a level. Objects keep the order of their keys.
-/

namespace WireSchema

open WireSchema.Number

/-- A JSON tree. -/
inductive Json
  | null
  | bool (b : Bool)
  | int (n : Int)
  | float (x : Double)
  | string (s : String)
  | array (items : List Json)
  | object (entries : List (String × Json))
deriving Inhabited

namespace Json

/-- The text of a tree without parts. Floating-point numbers other than finite ones are null. -/
def leafText : Json → String
  | null => "null"
  | bool b => if b then "true" else "false"
  | int n => toString n
  | float x =>
    match x.unpack with
    | .finite _ _ _ => x.toText .json
    | _ => "null"
  | string s => Text.jsonString s
  | array _ => "[]"
  | object _ => "\x7b\x7d"

mutual

/-- A tree on one line. -/
def compact : Json → String
  | array items => "[" ++ ",".intercalate (compactItems items) ++ "]"
  | object entries => "\x7b" ++ ",".intercalate (compactEntries entries) ++ "\x7d"
  | leaf => leaf.leafText

/-- The items of an array, each on one line. -/
def compactItems : List Json → List String
  | [] => []
  | j :: rest => j.compact :: compactItems rest

/-- The entries of an object, each on one line. -/
def compactEntries : List (String × Json) → List String
  | [] => []
  | (key, j) :: rest => (Text.jsonString key ++ ":" ++ j.compact) :: compactEntries rest

end

/-- The blanks at the start of a line. -/
def indent (level : Nat) : String :=
  String.ofList (List.replicate (2 * level) ' ')

/-- Parts between brackets, one a line, or the brackets alone when there are none. -/
def block (opening closing : String) (level : Nat) (parts : List String) : String :=
  if parts.isEmpty then opening ++ closing
  else
    opening ++ "\n" ++ ",\n".intercalate (parts.map (indent (level + 1) ++ ·)) ++ "\n" ++
      indent level ++ closing

mutual

/-- A tree over several lines, of which the first is indented already. -/
def prettyAt (level : Nat) : Json → String
  | array items => block "[" "]" level (prettyItems (level + 1) items)
  | object entries => block "\x7b" "\x7d" level (prettyEntries (level + 1) entries)
  | leaf => leaf.leafText

/-- The items of an array. -/
def prettyItems (level : Nat) : List Json → List String
  | [] => []
  | j :: rest => j.prettyAt level :: prettyItems level rest

/-- The entries of an object. -/
def prettyEntries (level : Nat) : List (String × Json) → List String
  | [] => []
  | (key, j) :: rest =>
    (Text.jsonString key ++ ": " ++ j.prettyAt level) :: prettyEntries level rest

end

/-- A tree over several lines. -/
def pretty (j : Json) : String :=
  j.prettyAt 0

/-- A text, or null when there is none. -/
def ofString? (s : Option String) : Json :=
  match s with
  | some s => string s
  | none => null

end Json

end WireSchema
