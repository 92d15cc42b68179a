import WireSchema.CommandLine.Run

/-!
# The command line

Takes the files that the arguments name into a file tree, runs the command on the tree, and puts
what the command leaves behind on the disk and the two streams.
-/

namespace WireSchema.CommandLine

/-- Takes what stands at a place on the disk into a tree. Of a directory only itself is taken. -/
def loadNode (tree : FileTree) (place : List String) : IO FileTree := do
  let path := (← IO.currentDir) / ("/" ++ "/".intercalate place)
  if ← path.isDir then return tree.plant .directory [] place
  else if ← path.pathExists then
    match ← (IO.FS.readBinFile path).toBaseIO with
    | .ok content => return tree.plant (.file content) [] place
    | .error e => return tree.plant (.locked (.system (toString e))) [] place
  else return tree

/-- Takes the schema files of a directory into a tree. -/
def loadSchemaFiles (tree : FileTree) (place : List String) : IO FileTree := do
  let path := (← IO.currentDir) / ("/" ++ "/".intercalate place)
  if ← path.isDir then
    match ← path.readDir.toBaseIO with
    | .error e => return tree.plant (.closed (.system (toString e))) [] place
    | .ok entries =>
      let names := (entries.toList.map (·.fileName)).filter isSchemaFile
      names.foldlM (fun tree name => loadNode tree (place ++ [name])) tree
  else return tree

/-- Takes everything on the way along names into a tree, and the schema files at its end. -/
def loadAlong (tree : FileTree) (place : List String) : List String → IO FileTree
  | [] => loadSchemaFiles tree place
  | name :: rest => do
    let next := FileTree.enter place name
    loadAlong (← loadNode tree next) next rest

/-- The part of the disk that paths name. -/
def load (paths : List String) : IO FileTree := do
  let here := (pathNames (← IO.currentDir).toString).filter (· != "")
  paths.foldlM
    (fun tree path => loadAlong tree (if path.startsWith "/" then [] else here) (pathNames path))
    (FileTree.empty here)

/-- Writes the output file that a command has left in its tree. -/
def save (i : Invocation) (files : FileTree) : IO Unit :=
  match i.command with
  | .generate output =>
    match files.read output with
    | .ok content => IO.FS.writeBinFile output content
    | .error _ => return ()
  | _ => return ()

end WireSchema.CommandLine

open WireSchema.CommandLine in
/-- Runs the command line. -/
def main (args : List String) : IO UInt32 := do
  match Invocation.ofArgs? args with
  | none =>
    IO.eprint usage
    return 2
  | some i =>
    let outcome := i.run (← load i.paths)
    if outcome.exitCode = 0 then save i outcome.files
    IO.print outcome.stdout
    IO.eprint outcome.stderr
    return outcome.exitCode
