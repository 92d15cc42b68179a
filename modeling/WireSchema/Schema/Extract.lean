import WireSchema.Schema.Model

/-!
# From definitions to models

A model keeps the definitions of the recognized namespace and of the namespaces below it, or all of
them when none is named. Messages without an identifier are drafts and are left out.
-/

namespace WireSchema

open WireSchema.Source

/-- Is the namespace around a definition the recognized one or below it? -/
def inScope (declared recognized : Option String) : Bool :=
  match declared, recognized with
  | _, none => true
  | none, some _ => false
  | some declared, some recognized =>
    declared == recognized || (recognized ++ ".").toList.isPrefixOf declared.toList

/-- The place of a token in a source. -/
def Location.of (source : String) (p : Position) : Location :=
  ⟨source, p.line, p.column⟩

/-- The enum of a definition. -/
def extractEnum (source : String) (d : Definition) (width : Option Width)
    (members : List MemberDecl) : Enumeration where
  name := d.name
  width := width
  scope := d.scope
  members := members.map fun m => ⟨m.name, m.value, .of source m.position⟩
  location := .of source d.position

/-- The message of a definition. -/
def extractMessage (source : String) (d : Definition) (id : Int) (marker : Bool)
    (fields : List FieldDecl) : Message where
  identifier := id
  name := d.name
  marker := marker
  scope := d.scope
  fields := fields.zipIdx.map fun (f, order) =>
    ⟨f.name, .ofType f.type, order, .of source f.position⟩
  location := .of source d.position

/-- The definitions of a source in the recognized namespace. -/
def recognizedIn (recognized : Option String) (file : SourceFile) : List Definition :=
  file.definitions.filter fun d => inScope d.scope recognized

/-- The enums of a source. -/
def enumsIn (recognized : Option String) (defaultWidth : Option Width) (file : SourceFile) :
    List Enumeration :=
  (recognizedIn recognized file).filterMap fun d =>
    match d.body with
    | .enum width members => some (extractEnum file.name d (width.or defaultWidth) members)
    | .message _ _ _ => none

/-- The messages of a source. -/
def messagesIn (recognized : Option String) (file : SourceFile) : List Message :=
  (recognizedIn recognized file).filterMap fun d =>
    match d.body with
    | .message (some id) marker fields => some (extractMessage file.name d id marker fields)
    | _ => none

/-- The model of the recognized definitions of some sources. Enums without a width of their own get
    the default width. -/
def Model.extract (files : List SourceFile) (recognized : Option String)
    (defaultWidth : Option Width) : Model where
  scope := recognized
  enums := files.flatMap (enumsIn recognized defaultWidth)
  messages := files.flatMap (messagesIn recognized)

end WireSchema
