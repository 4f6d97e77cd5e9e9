import Sift.Command.Run

/-!
The program `fbx`. It takes from the disk what a run may look at, runs on that, prints the answer
and brings to the disk what the run has changed.
-/

namespace Sift

open Command

/-- The locations that some names lead past if no link stands in their way. -/
def passed (location : Location) : List String → List Location
  | [] => [location]
  | name :: rest =>
      let next :=
        if name = "." then location
        else if name = ".." then location.dropLast
        else location ++ [name]
      location :: passed next rest

/-- A location as an absolute path. -/
def pathOf (location : Location) : String :=
  "/" ++ "/".intercalate location

/-- Takes what a path leads past from the disk into the tree, with the directories around it. -/
def observe (tree : FileTree) (path : String) : IO FileTree := do
  let here ← IO.currentDir
  let places := (passed (tree.start path) (Path.names path)).flatMap FileTree.ancestors
  let mut tree := tree
  for place in distinct places do
    if ← (here / pathOf place).isDir then
      tree := { tree with directories := tree.directories ++ [place] }
    else if ← (here / pathOf place).pathExists then
      tree := tree.put place (← IO.FS.readFile (here / pathOf place))
  return tree

/-- Takes what a run may look at: the schema file and its data file. -/
def observeSchema (context : Context) (tree : FileTree) : IO FileTree := do
  match context.schemaPath with
  | .error _ => return tree
  | .ok path =>
      let tree ← observe tree path
      match SchemaFile.read tree path with
      | .ok file =>
          match file.dataFile with
          | some dataFile =>
              observe tree (Path.join (SchemaFile.baseDirectory path) dataFile)
          | none => return tree
      | .error _ => return tree

/-- Brings to the disk what is new in the second tree. -/
def commit (before after : FileTree) : IO Unit := do
  let here ← IO.currentDir
  for location in after.directories do
    if !before.isDirectory location then
      IO.FS.createDirAll (here / pathOf location)
  for (location, content) in after.files do
    if before.content? location ≠ some content then
      IO.FS.writeFile (here / pathOf location) content

/-- Says why a command line starts no command. -/
def reportUsage (usage : UsageError) : IO UInt32 := do
  match usage with
  | .displayHelp => IO.println "Usage: fbx [OPTIONS] [COMMAND]"
  | .displayVersion => IO.println "fbx 0.1.0"
  | usage => IO.eprintln s!"error: {usage.name}"
  return usage.exitCode.toUInt32

/-- Prints an answer. -/
def reportResponse (context : Context) (response : Response) : IO UInt32 := do
  IO.print response.stdout
  IO.eprint response.stderr
  match response.failure with
  | none => pure ()
  | some failure =>
      if context.json then
        let answer := Json.object
          [("error", .object
            [("code", .string failure.code), ("message", .string failure.message)])]
        IO.eprintln answer.pretty
      else IO.eprintln s!"Error: {failure.message}"
  return response.exitCode.toUInt32

end Sift

open Sift Sift.Command in
def main (words : List String) : IO UInt32 := do
  let names := ["FBX_SCHEMA", "NO_COLOR", "XDG_CONFIG_HOME", "HOME"]
  let values ← names.mapM fun name => do return (name, ← IO.getEnv name)
  let environment := Environment.ofLookup fun name => (values.lookup name).join
  match Invocation.read environment words with
  | .error usage => reportUsage usage
  | .ok invocation =>
      let context := Context.of environment invocation.settings
      let here := Path.names (← IO.currentDir).toString
      let before ← observeSchema context (.empty here)
      let (after, response) := invocation.run environment before
      commit before after
      reportResponse context response
