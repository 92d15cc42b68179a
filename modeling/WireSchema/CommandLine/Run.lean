import WireSchema.CommandLine.Args
import WireSchema.Schema.Render
import WireSchema.Value.Decode
import WireSchema.Value.Render

/-!
# Running a command

A command works on a file tree and ends with an exit code: 0 when it has done its work, 1 when it
has failed, with the reason on the error stream, and 2 when its arguments are wrong. Only
`generate` writes a file, and only when it succeeds.
-/

namespace WireSchema.CommandLine

/-- Why a command fails. -/
inductive CommandError
  /-- The schema cannot be compiled. -/
  | compile (e : CompileError)
  /-- The payload is no message of the schema. -/
  | value (e : ValueError)
  /-- The payload cannot be read. -/
  | payload (path : String) (e : FileError)
  /-- The bound on the nesting of messages ran out, which it never does. -/
  | interrupted

/-- An error in words. -/
def CommandError.message : CommandError → String
  | compile e => e.message
  | value e => e.message
  | payload path e => s!"failed to read {path}: {e.message}"
  | interrupted => "decoding was interrupted"

/-- Something that a command does with its session. -/
abbrev Work (α : Type) := EStateM CommandError Session α

/-- An action of the session as a part of a command. -/
def ofAction {α : Type} (action : Action α) : Work α := fun s =>
  match action s with
  | .ok a s => .ok a s
  | .error e s => .error (.compile e) s

/-- Reads the payload of a message. -/
def readPayload (path : String) : Work ByteArray := do
  match (← get).files.read path with
  | .ok data => return data
  | .error e => throw (.payload path e)

/-- Prints JSON. -/
def printed (j : Json) : String :=
  j.pretty ++ "\n"

/-- Does what a command says and gives what it prints. -/
def Command.perform : Command → Work String
  | generate output => do
    ofAction (writeCode output)
    return ""
  | check => do
    let _ ← ofAction validate
    return ""
  | dump => do
    let model ← ofAction makeModel
    return printed model.toJson
  | decode payload id => do
    let schema ← ofAction validate
    let data ← readPayload payload
    match Value.decodeFrame schema id data with
    | .ok v => return printed (v.toJson schema)
    | .error (.error e) => throw (.value e)
    | .error _ => throw .interrupted

/-- Reads the inputs, then does what the command says. -/
def Invocation.perform (i : Invocation) : Work String := do
  ofAction (addPaths i.inputs)
  i.command.perform

/-- What a command leaves behind. -/
structure Outcome where
  exitCode : UInt32
  stdout : String
  stderr : String
  files : FileTree

/-- What is said about wrong arguments. -/
def usage : String :=
  "usage: netmsgc generate OUTPUT | check | dump | decode PAYLOAD --id ID\n" ++
  "options: -i, --input PATH | --namespace NAME | --enum-width WIDTH | --runtime-path PATH\n"

/-- Runs what is asked for on a file tree. -/
def Invocation.run (i : Invocation) (files : FileTree) : Outcome :=
  match i.perform (.start i.options files) with
  | .ok out s => ⟨0, out, "", s.files⟩
  | .error e s => ⟨1, "", s!"error: {e.message}\n", s.files⟩

/-- Runs a command line on a file tree, given what its arguments ask for. -/
def runWith (parse : List String → Option Invocation) (args : List String) (files : FileTree) :
    Outcome :=
  match parse args with
  | none => ⟨2, "", usage, files⟩
  | some i => i.run files

/-- Runs the command line on a file tree. -/
def run : List String → FileTree → Outcome :=
  runWith Invocation.ofArgs?

end WireSchema.CommandLine
