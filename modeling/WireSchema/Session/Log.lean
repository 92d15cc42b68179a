import WireSchema.Schema.Extract
import WireSchema.Text.Quoted

/-!
# Log events

What a session reports while it works. An event has a level, the part of the program that it comes
from, a message and fields.
-/

namespace WireSchema

open WireSchema.Source

/-- Something that happened. -/
inductive Event
  /-- A source says nothing. -/
  | noDefinitions (source : String)
  /-- A source was read. -/
  | parsed (source : String) (definitions : Nat)
  /-- A directory has no schema files. -/
  | noSchemaFiles (path : String)
  /-- A definition lies outside the recognized namespace. -/
  | skippedOutside (source name scope : String)
  /-- A message has no identifier. -/
  | skippedUntagged (source name : String)
  /-- A model was made. -/
  | extracted (messages enums : Nat)
  /-- Code was generated. -/
  | emitted (fragments : Nat)
  /-- A file was written. -/
  | wrote (path : String) (bytes : Nat)
deriving DecidableEq

/-- The level of an event, five characters wide. -/
def Event.level : Event → String
  | noDefinitions _ => " WARN"
  | noSchemaFiles _ => " WARN"
  | wrote _ _ => " INFO"
  | _ => "DEBUG"

/-- The part of the program that an event comes from. -/
def Event.origin : Event → String
  | noDefinitions _ => "netmsg_compiler::compiler"
  | parsed _ _ => "netmsg_compiler::compiler"
  | noSchemaFiles _ => "netmsg_compiler::compiler"
  | skippedOutside _ _ _ => "netmsg_compiler::extract"
  | skippedUntagged _ _ => "netmsg_compiler::extract"
  | extracted _ _ => "netmsg_compiler::extract"
  | emitted _ => "netmsg_compiler::emit"
  | wrote _ _ => "netmsg_compiler::writer"

/-- The message of an event with its fields. -/
def Event.text : Event → String
  | noDefinitions source => s!"schema source has no definitions source={Text.literal source}"
  | parsed source definitions =>
    s!"parsed schema source source={Text.literal source} definitions={definitions}"
  | noSchemaFiles path => s!"no schema files found in directory path={path}"
  | skippedOutside source name scope =>
    s!"skipping definition outside the recognized namespace source={source} name={name} " ++
      s!"namespace={Text.literal scope}"
  | skippedUntagged source name => s!"skipping untagged message source={source} name={name}"
  | extracted messages enums => s!"extracted schema model messages={messages} enums={enums}"
  | emitted fragments => s!"emitted code fragments fragments={fragments}"
  | wrote path bytes => s!"wrote generated code path={path} bytes={bytes}"

/-- An event as a line of the log. -/
def Event.line (e : Event) : String :=
  s!"{e.level} {e.origin}: {e.text}"

/-- What is reported about the definitions of a source that a model leaves out. -/
def skipEvents (recognized : Option String) (file : SourceFile) : List Event :=
  file.definitions.filterMap fun d =>
    if !inScope d.scope recognized then
      some (.skippedOutside file.name d.name (d.scope.getD ""))
    else
      match d.body with
      | .message none _ _ => some (.skippedUntagged file.name d.name)
      | _ => none

/-- What is reported while a model is made. -/
def extractEvents (files : List SourceFile) (recognized : Option String) (model : Model) :
    List Event :=
  files.flatMap (skipEvents recognized) ++ [.extracted model.messages.length model.enums.length]

end WireSchema
