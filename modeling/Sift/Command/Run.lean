import Sift.Command.Invocation
import Sift.Grid.Similar
import Sift.Json.Printer
import Sift.Report.Completion
import Sift.Report.Grid
import Sift.Report.Query
import Sift.Schema.Load

/-!
Running a command. A run reads a tree of files, prints text, may fail, and leaves a tree of files;
only starting a new schema file changes it.
-/

namespace Sift.Command

inductive Failure where
  | parse (error : SyntaxError)
  | invalid (message : String)
  | grid (error : GridError)
  | config (error : ConfigError)
  | json
  deriving DecidableEq, Repr

namespace Failure

def message : Failure → String
  | .parse error => s!"parse error: {error.message}"
  | .invalid message => s!"invalid query: {message}"
  | .grid error => s!"schema error: {error.message}"
  | .config error => s!"configuration error: {error.message}"
  | .json => "serialization error"

def code : Failure → String
  | .parse _ => "PARSE_ERROR"
  | .invalid _ => "INVALID_QUERY"
  | .grid _ => "SCHEMA_ERROR"
  | .config _ => "CONFIG_ERROR"
  | .json => "JSON_ERROR"

def exitCode : Failure → Nat
  | .parse _ => 1
  | .invalid _ => 1
  | .json => 1
  | .grid _ => 5
  | .config _ => 5

def ofLoadError : LoadError → Failure
  | .config error => .config error
  | .grid error => .grid error
  | .json => .json

end Failure

/-- What a run prints, and how it fails if it does. -/
structure Response where
  stdout : String := ""
  stderr : String := ""
  failure : Option Failure := none

namespace Response

def exitCode (response : Response) : Nat :=
  (response.failure.map Failure.exitCode).getD 0

def failed (failure : Failure) : Response :=
  { failure := some failure }

end Response

/-- What commands need to know to run. -/
structure Context where
  json : Bool
  quiet : Bool
  colours : Bool
  schema : Option String
  environment : Environment

def Context.of (environment : Environment) (settings : Settings) : Context :=
  { json := settings.json
    quiet := settings.quiet
    colours := !settings.noColor && !environment.noColor
    schema := settings.schema
    environment := environment }

namespace Context

/-- The path of the schema file: as given, else in the directory of configuration files, else in
the home directory. -/
def schemaPath (context : Context) : Except ConfigError String :=
  match context.schema, context.environment.configHome, context.environment.home with
  | some path, _, _ => .ok path
  | none, some directory, _ => .ok (Path.join (Path.join directory "fbx") "schema.toml")
  | none, none, some home =>
      if home.isEmpty then .error .noHome
      else .ok (Path.join (Path.join (Path.join home ".config") "fbx") "schema.toml")
  | none, none, none => .error .noHome

/-- Prints a value as JSON or as text, if anything is to be printed. -/
def print (context : Context) (json : Json) (text : String) : Response :=
  if context.json then { stdout := json.pretty ++ "\n" }
  else if context.quiet then {}
  else { stdout := text }

theorem print_failure (context : Context) (json : Json) (text : String) :
    (context.print json text).failure = none := by
  unfold print
  split
  next => rfl
  next => split <;> rfl

/-- The caret under a syntax error, if it is to be printed. -/
def caret (context : Context) (query : String) (error : SyntaxError) : String :=
  if context.json || context.quiet then ""
  else Report.caret query error.position context.colours

/-- Loads the grid of the schema file. -/
def loadGrid (context : Context) (tree : FileTree) : Except Failure Grid :=
  match context.schemaPath with
  | .error error => .error (.config error)
  | .ok path =>
      match SchemaFile.load tree path with
      | .ok grid => .ok grid
      | .error error => .error (.ofLoadError error)

/-- The operators of the schema file, if there is one. -/
def loadVocabulary (context : Context) (tree : FileTree) : Except Failure (List String) :=
  match context.schemaPath with
  | .error error => .error (.config error)
  | .ok path =>
      if tree.isPresent path then (context.loadGrid tree).map Grid.vocabulary else .ok []

/-- Answers with what `answer` makes of a result, or fails with the result. -/
def andThen {α : Type} (result : Except Failure α) (answer : α → Response) : Response :=
  match result with
  | .ok a => answer a
  | .error failure => .failed failure

def runParse (context : Context) (tree : FileTree) (query : String) : Response :=
  andThen (context.loadVocabulary tree) fun vocabulary =>
    match parse vocabulary query with
    | .ok forest => context.print (Report.treeJson forest) (Report.tree forest context.colours)
    | .error error =>
        { stderr := context.caret query error, failure := some (.parse error) }

/-- The category that was probably meant, if the first bad predicate has an unknown one. -/
def hint (grid : Grid) (forest : Forest) : Option String := do
  grid.similar? (← grid.catalog.firstRejected forest).category

def runValidate (context : Context) (tree : FileTree) (query : String) : Response :=
  andThen (context.loadGrid tree) fun grid =>
    let verdict := grid.catalog.judgeText query
    match verdict.message with
    | none =>
        context.print (Report.verdictJson query verdict none)
          (Report.Style.heading.paint context.colours "✓ valid" ++ "\n")
    | some message =>
        let parsed := grid.catalog.parse query
        let hint? := parsed.toOption.bind (hint grid)
        let said := match hint? with
          | some name => s!"{message} (did you mean '{name}'?)"
          | none => message
        { stdout :=
            if context.json then (Report.verdictJson query verdict hint?).pretty ++ "\n" else ""
          stderr := match parsed with
            | .ok _ => ""
            | .error error => context.caret query error
          failure := some (.invalid said) }

def runSuggest (context : Context) (tree : FileTree) (text : String) (cursor : Option Nat) :
    Response :=
  andThen (context.loadGrid tree) fun grid =>
    let completion := grid.catalog.complete text (cursor.getD text.utf8ByteSize)
    context.print (Report.completionJson completion) (Report.completion completion context.colours)

def runTokens (context : Context) (tree : FileTree) (query : String) : Response :=
  andThen (context.loadVocabulary tree) fun vocabulary =>
    let rows := listing vocabulary query
    context.print (Report.tokensJson rows) (Report.tokens rows context.colours)

def runCategories (context : Context) (tree : FileTree) : Response :=
  andThen (context.loadGrid tree) fun grid =>
    context.print (Report.categoriesJson grid) (Report.categories grid context.colours)

def runSchemaShow (context : Context) (tree : FileTree) : Response :=
  andThen (context.schemaPath.mapError Failure.config) fun path =>
    andThen (context.loadGrid tree) fun grid =>
      context.print (Report.columnsJson path grid) (Report.columns path grid context.colours)

def runSchemaPath (context : Context) (tree : FileTree) : Response :=
  andThen (context.schemaPath.mapError Failure.config) fun path =>
    if context.json then
      let answer := Json.object
        [("exists", .bool (tree.isPresent path)), ("path", .string path)]
      { stdout := answer.pretty ++ "\n" }
    else { stdout := path ++ "\n" }

/-- Makes the directories that a path stands in, if it names any. -/
def makeParents (tree : FileTree) (path : String) : FileTree × Option FileError :=
  match Path.parent? path with
  | some parent => if parent.isEmpty then (tree, none) else tree.makeDirectories parent
  | none => (tree, none)

/-- Writes a new schema file; over an old one only by force. -/
def writeStarter (tree : FileTree) (path : String) (force : Bool) : FileTree × Option ConfigError :=
  if tree.isPresent path && !force then (tree, some (.alreadyThere path))
  else
    match makeParents tree path with
    | (tree, some error) => (tree, some (.noDirectory error))
    | (tree, none) =>
        match tree.write path SchemaFile.starter with
        | .ok tree => (tree, none)
        | .error error => (tree, some (.unwritable error))

def runSchemaInit (context : Context) (tree : FileTree) (force : Bool) : FileTree × Response :=
  match context.schemaPath with
  | .error error => (tree, .failed (.config error))
  | .ok path =>
      match writeStarter tree path force with
      | (tree, some error) => (tree, .failed (.config error))
      | (tree, none) =>
          let answer := Json.object [("path", .string path), ("status", .string "created")]
          (tree, context.print answer s!"Created schema at {path}\n")

/-- Runs a request on a tree of files. The script for a shell is not part of the answer. -/
def run (context : Context) (tree : FileTree) : Request → FileTree × Response
  | .greeting =>
      (tree, { stdout :=
        if context.quiet then "" else "fbx - filter query tool\nUse --help for usage information\n" })
  | .parse query => (tree, context.runParse tree query)
  | .validate query => (tree, context.runValidate tree query)
  | .suggest text cursor => (tree, context.runSuggest tree text cursor)
  | .tokens query => (tree, context.runTokens tree query)
  | .categories => (tree, context.runCategories tree)
  | .schemaShow => (tree, context.runSchemaShow tree)
  | .schemaPath => (tree, context.runSchemaPath tree)
  | .schemaInit force => context.runSchemaInit tree force
  | .completions => (tree, {})

end Context

/-- Runs what a command line asks for on a tree of files. -/
def Invocation.run (environment : Environment) (invocation : Invocation) (tree : FileTree) :
    FileTree × Response :=
  (Context.of environment invocation.settings).run tree invocation.request

end Sift.Command
