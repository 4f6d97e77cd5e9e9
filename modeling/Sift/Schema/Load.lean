import Sift.File.Tree
import Sift.Json.Reader
import Sift.Schema.File
import Sift.Toml.Reader

/-!
Finding and loading a schema file. The rows of the schema file come before those of its data
file, whose path is taken from the directory of the schema file.
-/

namespace Sift

/-- What goes wrong with the files of a schema. -/
inductive ConfigError where
  | missing (path : String)
  | unreadable (error : FileError)
  | malformed
  | unreadableData (path : String) (error : FileError)
  | dataNotList (path : String)
  | alreadyThere (path : String)
  | noDirectory (error : FileError)
  | unwritable (error : FileError)
  | noHome
  deriving DecidableEq, Repr

def ConfigError.message : ConfigError → String
  | .missing path => s!"No schema file at {path}. Run 'fbx schema init' to create one."
  | .unreadable error => s!"Failed to read schema: {error.message}"
  | .malformed => "Failed to parse schema"
  | .unreadableData path error => s!"Failed to read data file {path}: {error.message}"
  | .dataNotList path => s!"Data file {path} must contain a JSON array of row objects"
  | .alreadyThere path => s!"Schema file already exists at {path}. Use --force to overwrite."
  | .noDirectory error => s!"Failed to create schema directory: {error.message}"
  | .unwritable error => s!"Failed to write schema: {error.message}"
  | .noHome => "Could not determine config directory"

/-- Why a schema could not be loaded. -/
inductive LoadError where
  | config (error : ConfigError)
  | grid (error : GridError)
  | json
  deriving DecidableEq, Repr

namespace SchemaFile

/-- Reads the schema file at a path. -/
def read (tree : FileTree) (path : String) : Except ConfigError SchemaFile :=
  if !tree.isPresent path then .error (.missing path)
  else
    match tree.read path with
    | .error error => .error (.unreadable error)
    | .ok text =>
        match (Toml.parse? text).bind ofMembers? with
        | some file => .ok file
        | none => .error .malformed

/-- Reads the rows of a data file. -/
def readRows (tree : FileTree) (path : String) : Except LoadError (List Json) :=
  match tree.read path with
  | .error error => .error (.config (.unreadableData path error))
  | .ok text =>
      match Json.parse? text with
      | none => .error .json
      | some (.array rows) => .ok rows
      | some _ => .error (.config (.dataNotList path))

/-- The directory that relative paths in a schema file are taken from. -/
def baseDirectory (path : String) : String :=
  (Path.parent? path).getD "."

/-- Builds the grid of a schema file at a path. -/
def toGrid (file : SchemaFile) (tree : FileTree) (path : String) : Except LoadError Grid := do
  let more ← match file.dataFile with
    | some dataFile => readRows tree (Path.join (baseDirectory path) dataFile)
    | none => .ok []
  match Grid.build file.columns (file.rows ++ more) with
  | .ok grid => .ok grid
  | .error error => .error (.grid error)

/-- Loads the grid of the schema file at a path. -/
def load (tree : FileTree) (path : String) : Except LoadError Grid :=
  match read tree path with
  | .error error => .error (.config error)
  | .ok file => file.toGrid tree path

end SchemaFile

end Sift
