/-!
The command line. Words name a command and then a command inside of it; at each of these levels
the common switches may be given as well as those of the level. Reading goes from left to right
and stops at the first fault; what a level lacks or holds in conflict is found when it has been
read to its end, an inner level before an outer one.
-/

namespace Sift.Command

/-- Why the words of a command line start no command. Asking for help or for the version is
answered at once and no fault. -/
inductive UsageError where
  | invalidSubcommand
  | unknownArgument
  | missingRequiredArgument
  | argumentConflict
  | valueValidation
  | invalidValue
  | tooManyValues
  | displayHelp
  | displayVersion
  deriving DecidableEq, Repr

namespace UsageError

def name : UsageError → String
  | .invalidSubcommand => "InvalidSubcommand"
  | .unknownArgument => "UnknownArgument"
  | .missingRequiredArgument => "MissingRequiredArgument"
  | .argumentConflict => "ArgumentConflict"
  | .valueValidation => "ValueValidation"
  | .invalidValue => "InvalidValue"
  | .tooManyValues => "TooManyValues"
  | .displayHelp => "DisplayHelp"
  | .displayVersion => "DisplayVersion"

def exitCode : UsageError → Nat
  | .displayHelp => 0
  | .displayVersion => 0
  | _ => 2

end UsageError

/-- The levels of commands. -/
inductive Level where
  | root
  | parse
  | validate
  | suggest
  | tokens
  | categories
  | schema
  | schemaShow
  | schemaPath
  | schemaInit
  | completions
  deriving DecidableEq, Repr

/-- Arguments that are given or not. -/
inductive Switch where
  | verbose
  | quiet
  | json
  | noColor
  | force
  | help
  | version
  deriving DecidableEq, Repr

/-- Arguments that stand for a value: by a name of their own, or by their place. -/
inductive Parameter where
  | schema
  | cursor
  | query
  | shell
  deriving DecidableEq, Repr

namespace Level

/-- The command that a word names at a level. -/
def subcommand? : Level → String → Option Level
  | .root, "parse" => some .parse
  | .root, "p" => some .parse
  | .root, "validate" => some .validate
  | .root, "v" => some .validate
  | .root, "suggest" => some .suggest
  | .root, "s" => some .suggest
  | .root, "tokens" => some .tokens
  | .root, "categories" => some .categories
  | .root, "schema" => some .schema
  | .root, "completions" => some .completions
  | .schema, "show" => some .schemaShow
  | .schema, "path" => some .schemaPath
  | .schema, "init" => some .schemaInit
  | _, _ => none

def hasSubcommands : Level → Bool
  | .root => true
  | .schema => true
  | _ => false

/-- The argument that a level takes by its place. -/
def positional? : Level → Option Parameter
  | .parse => some .query
  | .validate => some .query
  | .suggest => some .query
  | .tokens => some .query
  | .completions => some .shell
  | _ => none

end Level

/-- What a name after dashes stands for. -/
inductive Named where
  | switch (switch : Switch)
  | parameter (parameter : Parameter)

/-- What a long name stands for at a level. -/
def longName? (level : Level) : String → Option Named
  | "verbose" => some (.switch .verbose)
  | "quiet" => some (.switch .quiet)
  | "json" => some (.switch .json)
  | "no-color" => some (.switch .noColor)
  | "schema" => some (.parameter .schema)
  | "help" => some (.switch .help)
  | "version" => some (.switch .version)
  | "cursor" => if level = .suggest then some (.parameter .cursor) else none
  | "force" => if level = .schemaInit then some (.switch .force) else none
  | _ => none

/-- What a letter stands for at a level. -/
def shortName? (level : Level) : Char → Option Named
  | 'v' => some (.switch .verbose)
  | 'q' => some (.switch .quiet)
  | 'h' => some (.switch .help)
  | 'V' => some (.switch .version)
  | 'c' => if level = .suggest then some (.parameter .cursor) else none
  | _ => none

inductive Shell where
  | bash
  | zsh
  | fish
  | powershell
  deriving DecidableEq, Repr

def Shell.ofName? : String → Option Shell
  | "bash" => some .bash
  | "zsh" => some .zsh
  | "fish" => some .fish
  | "powershell" => some .powershell
  | _ => none

/-- What was given at one level. A value that was named or placed last is pending: it is looked at
only when the next argument or the end of the level is reached. -/
structure Given where
  switches : List Switch := []
  schema : Option String := none
  cursor : Option Nat := none
  query : Option String := none
  shell : Option Shell := none
  pending : Option (Parameter × Option String) := none

namespace Given

/-- A number of up to 64 bits in decimal digits, with a plus sign or without. -/
def cursorOf? (text : String) : Option Nat :=
  let digits := match text.toList with
    | '+' :: rest => rest
    | all => all
  if digits.isEmpty || !digits.all Char.isDigit then none
  else
    let value := digits.foldl (fun value c => value * 10 + (c.toNat - '0'.toNat)) 0
    if value < Nat.pow 2 64 then some value else none

/-- Takes a path, which may not be empty. -/
def setSchema (given : Given) (value : String) : Except UsageError Given :=
  if value.isEmpty then .error .invalidValue else .ok { given with schema := some value }

/-- Takes the value of a parameter. -/
def set (given : Given) (parameter : Parameter) (value : String) : Except UsageError Given :=
  match parameter with
  | .schema =>
      if given.schema.isSome then .error .argumentConflict else given.setSchema value
  | .cursor =>
      if given.cursor.isSome then .error .argumentConflict
      else
        match cursorOf? value with
        | some cursor => .ok { given with cursor := some cursor }
        | none => .error .valueValidation
  | .query => .ok { given with query := some value }
  | .shell =>
      match Shell.ofName? value with
      | some shell => .ok { given with shell := some shell }
      | none => .error .invalidValue

/-- Looks at the pending value; one that never came is a fault. -/
def settle (given : Given) : Except UsageError Given :=
  match given.pending with
  | none => .ok given
  | some (_, none) => .error .invalidValue
  | some (parameter, some value) => { given with pending := none }.set parameter value

/-- Switches on. Help and version are answered at once. -/
def switchOn (given : Given) (switch : Switch) : Except UsageError Given := do
  let given ← given.settle
  match switch with
  | .help => .error .displayHelp
  | .version => .error .displayVersion
  | switch =>
      if given.switches.contains switch then .error .argumentConflict
      else return { given with switches := given.switches ++ [switch] }

/-- Takes a parameter whose value stands in the same word. -/
def attach (given : Given) (parameter : Parameter) (value : String) : Except UsageError Given := do
  (← given.settle).set parameter value

/-- Waits for the value of a parameter. -/
def await (given : Given) (parameter : Parameter) : Except UsageError Given := do
  return { ← given.settle with pending := some (parameter, none) }

/-- Whether a value is waited for. -/
def isAwaiting (given : Given) : Bool :=
  match given.pending with
  | some (_, none) => true
  | _ => false

/-- Takes a word as the value that is waited for. -/
def supply (given : Given) (word : String) : Given :=
  { given with pending := given.pending.map fun (parameter, _) => (parameter, some word) }

/-- Whether a word has been placed already. -/
def isPlaced (given : Given) : Bool :=
  given.query.isSome || given.shell.isSome
    || given.pending.any fun (parameter, _) => parameter = .query || parameter = .shell

/-- Takes a word by its place. -/
def place (given : Given) (parameter : Parameter) (word : String) : Except UsageError Given := do
  return { ← given.settle with pending := some (parameter, some word) }

end Given

/-- Reads a word of letters after one dash. A letter that takes a value takes the rest of the
word, with or without an equals sign before it. -/
def readLetters (level : Level) (given : Given) : List Char → Except UsageError Given
  | [] => .ok given
  | c :: cs =>
      match shortName? level c with
      | none => .error .unknownArgument
      | some (.switch switch) => do readLetters level (← given.switchOn switch) cs
      | some (.parameter parameter) =>
          match cs with
          | [] => given.await parameter
          | '=' :: value => given.attach parameter (String.ofList value)
          | value => given.attach parameter (String.ofList value)

/-- Reads a word after two dashes: a name, or a name with a value after an equals sign. -/
def readLong (level : Level) (given : Given) (word : List Char) : Except UsageError Given :=
  let name := String.ofList (word.takeWhile (· ≠ '='))
  let value := (word.dropWhile (· ≠ '=')).tail?
  match longName? level name, value with
  | none, _ => .error .unknownArgument
  | some (.switch _), some _ => .error .tooManyValues
  | some (.switch switch), none => given.switchOn switch
  | some (.parameter parameter), some value => given.attach parameter (String.ofList value)
  | some (.parameter parameter), none => given.await parameter

/-- What comes of asking for help by a word: the words after it have to name a command. -/
def helpOn (level : Level) : List String → UsageError
  | [] => .displayHelp
  | word :: rest =>
      match level.subcommand? word with
      | some inner => helpOn inner rest
      | none => if word = "help" && level.hasSubcommands && rest.isEmpty then .displayHelp
        else .invalidSubcommand

/-- The fault of a word that has no place at a level. -/
def misplaced (level : Level) (escaped : Bool) (word : String) : UsageError :=
  if level.hasSubcommands
      && !(escaped && (word = "help" || (level.subcommand? word).isSome)) then
    .invalidSubcommand
  else
    .unknownArgument

/-- What a word is, to judge by its dashes. -/
inductive Shape where
  | escape
  | long (name : List Char)
  | letters (letters : List Char)
  | plain

def shapeOf (word : String) : Shape :=
  match word.toList with
  | ['-', '-'] => .escape
  | '-' :: '-' :: name => .long name
  | '-' :: c :: cs => .letters (c :: cs)
  | _ => .plain

/-- Closes a level: the pending value is looked at, a path missing here comes from the
environment, and then conflicts and missing arguments are found. -/
def finish (level : Level) (environment : Option String) (given : Given) :
    Except UsageError Given := do
  let given ← given.settle
  match given.schema, environment with
  | none, some path => let _ ← given.setSchema path
  | _, _ => pure ()
  if given.switches.contains .verbose && given.switches.contains .quiet then
    .error .argumentConflict
  else if level.positional?.isSome && given.query.isNone && given.shell.isNone then
    .error .missingRequiredArgument
  else .ok given

/-- Reads the words of a level and of the levels inside of it. `escaped` says whether two dashes
have stood alone: after them every word goes by its place. -/
def readLevel (environment : Option String) (level : Level) (escaped : Bool) (given : Given) :
    List String → Except UsageError (List (Level × Given))
  | [] => do return [(level, ← finish level environment given)]
  | word :: rest =>
      if !escaped && !given.isAwaiting && (level.subcommand? word).isSome then do
        let inner := (level.subcommand? word).getD level
        let levels ← readLevel environment inner false {} rest
        return (level, ← finish level environment given) :: levels
      else if !escaped && !given.isAwaiting && level.hasSubcommands && word = "help" then
        .error (helpOn level rest)
      else
        match (if escaped then Shape.plain else shapeOf word) with
        | .escape => readLevel environment level true given rest
        | .long name => do
            readLevel environment level false (← readLong level given name) rest
        | .letters letters => do
            readLevel environment level false (← readLetters level given letters) rest
        | .plain =>
            if !escaped && given.isAwaiting then
              readLevel environment level false (given.supply word) rest
            else
              match level.positional? with
              | some parameter =>
                  if given.isPlaced then .error (misplaced level escaped word)
                  else do
                    readLevel environment level escaped (← given.place parameter word) rest
              | none => .error (misplaced level escaped word)

end Sift.Command
