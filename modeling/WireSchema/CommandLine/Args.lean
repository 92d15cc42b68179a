import WireSchema.Session.Basic

/-!
# Arguments

The arguments of the command line. The first one names what is to be done; options and the one
operand that some commands take follow in any order. The value of an option is the next argument,
or is attached to the option behind an equals sign (behind a short option also without one).
Behind two dashes everything is an operand. Only the option for inputs can be given more than
once.
-/

namespace WireSchema.CommandLine

/-- What is to be done. -/
inductive Command
  /-- Write the code generated from the schema. -/
  | generate (output : String)
  /-- Validate the schema. -/
  | check
  /-- Print the model as JSON. -/
  | dump
  /-- Print a message as JSON. -/
  | decode (payload : String) (id : UInt32)

/-- What is to be done, with which schema. -/
structure Invocation where
  command : Command
  /-- Files and directories with schema text. -/
  inputs : List String
  options : Options

/-- An option of the command line. -/
inductive Flag
  | input
  | scope
  | enumWidth
  | runtimePath
  | id
deriving DecidableEq

/-- The option with a given long name. -/
def Flag.ofName? : String → Option Flag
  | "input" => some input
  | "namespace" => some scope
  | "enum-width" => some enumWidth
  | "runtime-path" => some runtimePath
  | "id" => some id
  | _ => none

/-- Arguments sorted into options with their values and operands. -/
structure Sorted where
  options : List (Flag × String)
  operands : List String

/-- What an argument is. -/
inductive Arg
  /-- Everything behind it is an operand. -/
  | dashes
  /-- An option, with its value if that is attached. -/
  | flag (f : Flag) (value : Option String)
  /-- An operand, or the value of the option in front of it. -/
  | plain (text : String)
  /-- None of these. -/
  | unknown

/-- The name of a long option, and its value if that is attached. -/
def splitLong (body : List Char) : String × Option String :=
  match body.dropWhile (· != '=') with
  | [] => (String.ofList body, none)
  | _ :: value => (String.ofList (body.takeWhile (· != '=')), some (String.ofList value))

/-- What an argument is. A single dash is an operand. -/
def Arg.ofString (arg : String) : Arg :=
  match arg.toList with
  | ['-', '-'] => .dashes
  | '-' :: '-' :: body =>
    let (name, value) := splitLong body
    match Flag.ofName? name with
    | some f => .flag f value
    | none => .unknown
  | ['-', 'i'] => .flag .input none
  | '-' :: 'i' :: '=' :: value => .flag .input (some (String.ofList value))
  | '-' :: 'i' :: value => .flag .input (some (String.ofList value))
  | '-' :: _ :: _ => .unknown
  | _ => .plain arg

/-- Sorts arguments; `none` when one of them is unknown or lacks its value. -/
def sortArgs? : List String → Option Sorted
  | [] => some ⟨[], []⟩
  | arg :: rest =>
    match Arg.ofString arg with
    | .dashes => some ⟨[], rest⟩
    | .unknown => none
    | .plain text => (sortArgs? rest).map fun s => { s with operands := text :: s.operands }
    | .flag f (some value) =>
      (sortArgs? rest).map fun s => { s with options := (f, value) :: s.options }
    | .flag f none =>
      match rest with
      | [] => none
      | value :: rest =>
        match Arg.ofString value with
        | .plain text =>
          (sortArgs? rest).map fun s => { s with options := (f, text) :: s.options }
        | _ => none

/-- The values of an option, in order. -/
def Sorted.values (s : Sorted) (f : Flag) : List String :=
  (s.options.filter fun (g, _) => g == f).map Prod.snd

/-- The value of an option that is given at most once; `none` when it is given more often. -/
def Sorted.single? (s : Sorted) (f : Flag) : Option (Option String) :=
  match s.values f with
  | [] => some none
  | [value] => some (some value)
  | _ => none

/-- A path, which is not empty. -/
def path? (text : String) : Option String :=
  if text == "" then none else some text

/-- The identifier that a text stands for. A sign may be written. -/
def id? (text : String) : Option UInt32 := do
  let n ←
    match text.toList with
    | '-' :: digits => (Source.digitsValue? digits).map fun n => -(n : Int)
    | '+' :: digits => (Source.digitsValue? digits).map Int.ofNat
    | digits => (Source.digitsValue? digits).map Int.ofNat
  if isWireId n then some (UInt32.ofNat n.toNat) else none

/-- The inputs that are given, or the directory `schema` when none is. -/
def Sorted.inputs? (s : Sorted) : Option (List String) :=
  match s.values .input with
  | [] => some ["schema"]
  | values => values.mapM path?

/-- How a session is to work. -/
def Sorted.options? (s : Sorted) : Option Options := do
  let scope ← s.single? .scope
  let enumWidth ←
    match ← s.single? .enumWidth with
    | none => some none
    | some name => (Width.ofName? name).map some
  let runtimePath ← s.single? .runtimePath
  return { scope, enumWidth, runtimePath := runtimePath.getD defaultRuntimePath }

/-- The command with a given name. Only a decoder takes an identifier, and has to. -/
def Sorted.command? (s : Sorted) (name : String) : Option Command := do
  match name, s.operands, ← s.single? .id with
  | "generate", [output], none => return .generate (← path? output)
  | "check", [], none => return .check
  | "dump", [], none => return .dump
  | "decode", [payload], some id => return .decode (← path? payload) (← id? id)
  | _, _, _ => none

/-- What arguments ask for; `none` when they are wrong. -/
def Invocation.ofArgs? : List String → Option Invocation
  | [] => none
  | name :: rest => do
    let s ← sortArgs? rest
    return { command := ← s.command? name, inputs := ← s.inputs?, options := ← s.options? }

/-- The paths that an invocation reads or writes. -/
def Invocation.paths (i : Invocation) : List String :=
  match i.command with
  | .generate output => i.inputs ++ [output]
  | .decode payload _ => i.inputs ++ [payload]
  | _ => i.inputs

end WireSchema.CommandLine
