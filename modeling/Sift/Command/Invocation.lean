import Sift.Command.Arguments

/-!
A command line as a whole: the settings it makes and the command it starts. A switch holds if it
is given at any level; of several schema paths the innermost counts, and one on the command line
counts more than one in the environment.
-/

namespace Sift.Command

/-- What commands read from the environment. -/
structure Environment where
  /-- The path of the schema file. -/
  schema : Option String
  /-- Whether colours are refused. -/
  noColor : Bool
  /-- The directory of configuration files. -/
  configHome : Option String
  /-- The home directory. -/
  home : Option String

/-- The environment of named variables. -/
def Environment.ofLookup (lookup : String → Option String) : Environment :=
  ⟨lookup "FBX_SCHEMA", (lookup "NO_COLOR").isSome, lookup "XDG_CONFIG_HOME",
    lookup "HOME"⟩

structure Settings where
  verbose : Bool
  quiet : Bool
  json : Bool
  noColor : Bool
  schema : Option String

/-- What a command line asks for. -/
inductive Request where
  | greeting
  | parse (query : String)
  | validate (query : String)
  | suggest (text : String) (cursor : Option Nat)
  | tokens (query : String)
  | categories
  | schemaShow
  | schemaPath
  | schemaInit (force : Bool)
  | completions
  deriving DecidableEq, Repr

structure Invocation where
  settings : Settings
  request : Request

/-- The request that the innermost level makes. -/
def requestOf (level : Level) (given : Given) : Request :=
  let query := given.query.getD ""
  match level with
  | .root => .greeting
  | .parse => .parse query
  | .validate => .validate query
  | .suggest => .suggest query given.cursor
  | .tokens => .tokens query
  | .categories => .categories
  | .schema => .schemaShow
  | .schemaShow => .schemaShow
  | .schemaPath => .schemaPath
  | .schemaInit => .schemaInit (given.switches.contains .force)
  | .completions => .completions

def settingsOf (environment : Environment) (levels : List (Level × Given)) : Settings :=
  let isOn (switch : Switch) : Bool := levels.any fun (_, given) => given.switches.contains switch
  { verbose := isOn .verbose
    quiet := isOn .quiet
    json := isOn .json
    noColor := isOn .noColor
    schema := (levels.filterMap fun (_, given) => given.schema).getLast?.or environment.schema }

/-- Reads the words of a command line. -/
def Invocation.read (environment : Environment) (words : List String) :
    Except UsageError Invocation := do
  let levels ← readLevel environment.schema .root false {} words
  let request := (levels.getLast?.map fun (level, given) => requestOf level given).getD .greeting
  return ⟨settingsOf environment levels, request⟩

/-- How much a run logs. -/
def Settings.logLevel (settings : Settings) : String :=
  if settings.verbose then "debug" else if settings.quiet then "error" else "warn"

end Sift.Command
