import Sift.File.Path

/-!
Files and directories. A location lists the names on the way to it from the root. A path that
does not begin with a slash starts at the working directory. Looking up a path goes name by name,
and every name but the last has to be that of a directory.
-/

namespace Sift

inductive FileError where
  | notFound
  | alreadyExists
  | notDirectory
  | isDirectory
  | nameTooLong
  | nulInName
  deriving DecidableEq, Repr

def FileError.message : FileError → String
  | .notFound => "No such file or directory (os error 2)"
  | .alreadyExists => "File exists (os error 17)"
  | .notDirectory => "Not a directory (os error 20)"
  | .isDirectory => "Is a directory (os error 21)"
  | .nameTooLong => "File name too long (os error 36)"
  | .nulInName => "file name contained an unexpected NUL byte"

abbrev Location := List String

structure FileTree where
  workingDirectory : Location
  files : List (Location × String)
  directories : List Location
  deriving DecidableEq, Repr

namespace FileTree

/-- The text of the file at a location. -/
def content? (tree : FileTree) (location : Location) : Option String :=
  tree.files.lookup location

/-- The root is always there. -/
def isDirectory (tree : FileTree) (location : Location) : Bool :=
  location = [] || tree.directories.contains location

def holds (tree : FileTree) (location : Location) : Bool :=
  tree.isDirectory location || (tree.content? location).isSome

/-- Sets the text of one file: in its place if it is there, else at the end. -/
def setContent (location : Location) (content : String) :
    List (Location × String) → List (Location × String)
  | [] => [(location, content)]
  | (other, held) :: rest =>
      if other = location then (location, content) :: rest
      else (other, held) :: setContent location content rest

/-- The tree with the text of one file set. -/
def put (tree : FileTree) (location : Location) (content : String) : FileTree :=
  { tree with files := setContent location content tree.files }

/-- A location and those of the directories around it, outermost first. -/
def ancestors : Location → List Location
  | [] => []
  | name :: rest => [name] :: (ancestors rest).map (name :: ·)

/-- A tree with nothing in it but the working directory. -/
def empty (workingDirectory : Location) : FileTree :=
  ⟨workingDirectory, [], ancestors workingDirectory⟩

/-- The tree with one more file, and the directories it stands in. -/
def add (tree : FileTree) (location : Location) (content : String) : FileTree :=
  let tree := tree.put location content
  { tree with directories := tree.directories ++ ancestors location.dropLast }

/-- The tree of some files, each with its path from the working directory. -/
def ofFiles (workingDirectory : Location) (files : List (String × String)) : FileTree :=
  files.foldl (fun tree (path, content) => tree.add (workingDirectory ++ Path.names path) content)
    (empty workingDirectory)

/-- The files below the working directory, each with its path from there. -/
def toFiles (tree : FileTree) : List (String × String) :=
  tree.files.filterMap fun (location, content) =>
    if tree.workingDirectory.isPrefixOf location then
      some ("/".intercalate (location.drop tree.workingDirectory.length), content)
    else none

/-- The greatest number of bytes in a name. -/
def nameLimit : Nat := 255

/-- The greatest number of bytes in a path. -/
def pathLimit : Nat := 4095

/-- What a name leads to from a directory. The root is its own parent. -/
def step (tree : FileTree) (directory : Location) (name : String) : Except FileError Location :=
  if name = "." then .ok directory
  else if name = ".." then .ok directory.dropLast
  else if nameLimit < name.utf8ByteSize then .error .nameTooLong
  else if tree.holds (directory ++ [name]) then .ok (directory ++ [name])
  else .error .notFound

/-- What some names lead to, one after the other. -/
def walk (tree : FileTree) (location : Location) : List String → Except FileError Location
  | [] => .ok location
  | name :: rest =>
      if tree.isDirectory location then do tree.walk (← tree.step location name) rest
      else .error .notDirectory

/-- Where a path begins. -/
def start (tree : FileTree) (path : String) : Location :=
  if Path.isAbsolute path then [] else tree.workingDirectory

/-- Whether the text can be a path at all. -/
def checkPath (path : String) : Except FileError Unit :=
  if path.toList.contains '\x00' then .error .nulInName
  else if path.isEmpty then .error .notFound
  else if pathLimit < path.utf8ByteSize then .error .nameTooLong
  else .ok ()

/-- The location of the file or directory at a path. -/
def resolve (tree : FileTree) (path : String) : Except FileError Location := do
  checkPath path
  let location ← tree.walk (tree.start path) (Path.names path)
  if Path.endsInSlash path && !tree.isDirectory location then .error .notDirectory
  else .ok location

/-- Whether there is a file or directory at a path. -/
def isPresent (tree : FileTree) (path : String) : Bool :=
  (tree.resolve path).isOk

/-- The text of the file at a path. -/
def read (tree : FileTree) (path : String) : Except FileError String := do
  let location ← tree.resolve path
  match tree.content? location with
  | some content => .ok content
  | none => .error .isDirectory

/-- The directory that the last name of a path stands in, and that name. -/
def resolveLast (tree : FileTree) (path : String) : Except FileError (Location × Option String) := do
  checkPath path
  let names := Path.names path
  let directory ← tree.walk (tree.start path) names.dropLast
  if tree.isDirectory directory then .ok (directory, names.getLast?) else .error .notDirectory

/-- Makes one directory. -/
def makeDirectory (tree : FileTree) (path : String) : Except FileError FileTree := do
  let (directory, name) ← tree.resolveLast path
  match name with
  | none => .error .alreadyExists
  | some name =>
      if name = "." || name = ".." then .error .alreadyExists
      else if nameLimit < name.utf8ByteSize then .error .nameTooLong
      else if tree.holds (directory ++ [name]) then .error .alreadyExists
      else .ok { tree with directories := tree.directories ++ [directory ++ [name]] }

/-- Whether there is a directory at a path. -/
def directoryAt (tree : FileTree) (path : String) : Bool :=
  match tree.resolve path with
  | .ok location => tree.isDirectory location
  | .error _ => false

/-- Makes one directory unless it is there already. -/
def ensureDirectory (tree : FileTree) (path : String) : Except FileError FileTree :=
  match tree.makeDirectory path with
  | .ok tree => .ok tree
  | .error error => if tree.directoryAt path then .ok tree else .error error

/-- Makes a directory and those around it. What was made stays, even if a later one cannot
be made. -/
def makeDirectories (tree : FileTree) (path : String) : FileTree × Option FileError :=
  match tree.ensureDirectory path with
  | .ok tree => (tree, none)
  | .error .notFound =>
      match Path.parent? path with
      | none => (tree, some .notFound)
      | some parent =>
          if parent.length < path.length then
            match (if parent.isEmpty then (tree, none) else tree.makeDirectories parent) with
            | (tree, some error) => (tree, some error)
            | (tree, none) =>
                match tree.ensureDirectory path with
                | .ok tree => (tree, none)
                | .error error => (tree, some error)
          else
            (tree, some .notFound)
  | .error error => (tree, some error)
  termination_by path.length

/-- Writes the file at a path, anew or over an old one. -/
def write (tree : FileTree) (path content : String) : Except FileError FileTree := do
  let (directory, name) ← tree.resolveLast path
  match name with
  | none => .error .isDirectory
  | some name =>
      if name = "." || name = ".." || Path.endsInSlash path then .error .isDirectory
      else if nameLimit < name.utf8ByteSize then .error .nameTooLong
      else if tree.isDirectory (directory ++ [name]) then .error .isDirectory
      else .ok (tree.put (directory ++ [name]) content)

end FileTree

end Sift
