import WireSchema.Codegen.File
import WireSchema.FileTree
import WireSchema.Session.Log
import WireSchema.Source.Parser

/-!
# Sessions

A session collects schema sources and turns them into a model, a schema or generated code. Sources
come from texts, files or directories; a source that cannot be read or parsed is not taken, and of
a directory those in front of it are. Of a directory that cannot be listed to its end none is taken.
Making a model or code changes nothing, writing changes one file.
-/

namespace WireSchema

open WireSchema.Source

/-- The path that generated code imports its runtime from when none is given. -/
def defaultRuntimePath : String := "netmsg"

/-- How a session works. -/
structure Options where
  /-- Only definitions in this namespace or below it count. -/
  scope : Option String := none
  /-- The width of enums that declare none. -/
  enumWidth : Option Width := none
  /-- The path that generated code imports its runtime from. -/
  runtimePath : String := defaultRuntimePath

/-- Why a session cannot do what it is asked to. -/
inductive CompileError
  /-- A source cannot be read. -/
  | io (path : String) (e : FileError)
  /-- A source is no schema text. -/
  | parse (label : String) (e : SyntaxError)
  /-- The model has problems. -/
  | schema (problems : List Problem)
  /-- The generated code cannot be written. -/
  | output (path : String) (e : FileError)

/-- An error in words. -/
def CompileError.message : CompileError → String
  | io path e => s!"failed to read {path}: {e.message}"
  | parse label e => s!"{label}:{e.position.line}:{e.position.column}: {e.reason}"
  | schema problems => Problem.report problems
  | output path e => s!"cannot write {path}: {e.message}"

/-- A session in its surroundings. -/
structure Session where
  options : Options
  /-- The sources in the order in which they were added. -/
  sources : List SourceFile
  files : FileTree
  /-- What was reported so far, last first. -/
  log : List Event

/-- A session without sources. -/
def Session.start (options : Options) (files : FileTree) : Session :=
  ⟨options, [], files, []⟩

/-- Something that a session does. What it has done before a failure stays done. -/
abbrev Action (α : Type) := EStateM CompileError Session α

/-- Reports an event. -/
def report (e : Event) : Action Unit :=
  modify fun s => { s with log := e :: s.log }

/-- Adds a text under a label. -/
def addSource (label text : String) : Action Unit := do
  match parse text label with
  | .error e => throw (.parse label e)
  | .ok file =>
    if file.definitions.isEmpty then report (.noDefinitions label)
    else report (.parsed label file.definitions.length)
    modify fun s => { s with sources := s.sources ++ [file] }

/-- Adds a file. -/
def addFile (path : String) : Action Unit := do
  match (← get).files.readText path with
  | .error e => throw (.io path e)
  | .ok text => addSource path text

/-- Adds files one after the other. -/
def addFiles : List String → Action Unit
  | [] => pure ()
  | path :: rest => do
    addFile path
    addFiles rest

/-- Has a file the name of a schema file: something, then `.msg`? -/
def isSchemaFile (name : String) : Bool :=
  name.endsWith ".msg" && name != ".msg"

/-- The names in a listing. The first entry that cannot be read aborts it. -/
def listedNames : List (Except FileError String) → Except FileError (List String)
  | [] => .ok []
  | .error e :: _ => .error e
  | .ok name :: rest => (listedNames rest).map (name :: ·)

/-- The schema files among the entries of a directory, sorted by name. -/
def schemaFiles (t : FileTree) (dir : String) (entries : List (Except FileError String)) :
    Except FileError (List String) := do
  let names := (← listedNames entries).filter fun name =>
    t.isFile (joinPath dir name) && isSchemaFile name
  return (names.mergeSort fun a b => decide (a ≤ b)).map (joinPath dir)

/-- Adds a file, or all schema files in a directory. -/
def addPath (path : String) : Action Unit := do
  let files := (← get).files
  if files.isDirectory path then
    match files.entriesIn path with
    | .error e => throw (.io path e)
    | .ok entries =>
      match schemaFiles files path entries with
      | .error e => throw (.io path e)
      | .ok paths =>
        if paths.isEmpty then report (.noSchemaFiles path)
        addFiles paths
  else addFile path

/-- Adds paths one after the other. -/
def addPaths : List String → Action Unit
  | [] => pure ()
  | path :: rest => do
    addPath path
    addPaths rest

/-- The model of the sources. -/
def makeModel : Action Model := do
  let s ← get
  let model := Model.extract s.sources s.options.scope s.options.enumWidth
  let events := extractEvents s.sources s.options.scope model
  set { s with log := events.reverse ++ s.log }
  return model

/-- The schema of the sources. -/
def validate : Action Schema := do
  match (← makeModel).validate with
  | .ok schema => return schema
  | .error problems => throw (.schema problems)

/-- The code generated from the sources. -/
def generate : Action String := do
  let schema ← validate
  match Codegen.fragments schema (← get).options.runtimePath with
  | .error p => throw (.schema [p])
  | .ok parts =>
    report (.emitted parts.length)
    return Codegen.render schema parts

/-- Writes the code generated from the sources. Nothing is written when it cannot be generated. -/
def writeCode (path : String) : Action Unit := do
  let code ← generate
  match (← get).files.write path code.toUTF8 with
  | .error e => throw (.output path e)
  | .ok files =>
    modify fun s => { s with files := files }
    report (.wrote path code.utf8ByteSize)

/-- The schema of a single text. -/
def compileText (text : String) : Except CompileError Schema :=
  let action : Action Schema := do
    addSource "<input>" text
    validate
  match action (.start {} (.empty [])) with
  | .ok schema _ => .ok schema
  | .error e _ => .error e

end WireSchema
