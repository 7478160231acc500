import SqlStatement.Config.Load
import SqlStatement.Files
import SqlStatement.Help

/-!
# Running the program

From arguments, and what files and documents are read as, to everything that a
run shows: what it writes, and the error it ends with.  Statements are rendered
all or none.
-/

namespace SqlStatement

inductive RunError where
  | arguments (error : ArgumentError)
  | unreadable (path : String) (error : ReadError)
  | unloadable (path : String) (error : ConfigError)
  /-- A statement was asked for that the configuration does not have. -/
  | unknownName (name : String)
  | statement (error : StatementError)
  deriving DecidableEq

namespace RunError

def message : RunError → String
  | arguments error => error.message
  | unreadable path error => "failed to read config file " ++ path ++ ": " ++ error.message
  | unloadable path error => "failed to load config file " ++ path ++ ": " ++ error.message
  | unknownName name => "no statement named " ++ Text.quoted name ++ " in config"
  | statement error => error.message

end RunError

namespace Config

/-- The statements with one of the names, in their order; all of them if no name is given. -/
def selected (config : Config) (names : List String) : List NamedStatement :=
  config.statements.filter fun statement => names.isEmpty || names.contains statement.name

def unknownName? (config : Config) (names : List String) : Option String :=
  names.find? fun name => !config.statements.any fun statement => statement.name = name

end Config

/-- Build statements one after the other; the first that fails, fails them all. -/
def buildAll : List NamedStatement → Except StatementError (List (String × Sql))
  | [] => .ok []
  | statement :: rest => do
      let sql ← statement.buildNamed
      let others ← buildAll rest
      return (statement.name, sql) :: others

def Config.render (config : Config) (names : List String) :
    Except RunError (List (String × Sql)) :=
  match config.unknownName? names with
  | some name => .error (.unknownName name)
  | none => (buildAll (config.selected names)).mapError .statement

/-- One statement on a line: its text, or a JSON object with its name and text. -/
def outputLine (json : Bool) (name : String) (sql : Sql) : String :=
  if json then
    "\x7b\"name\":" ++ Text.jsonString name ++ ",\"sql\":" ++ sql.json ++ "\x7d\n"
  else
    sql.text ++ "\n"

structure Outcome where
  stdout : String := ""
  stderr : String := ""
  error : Option RunError := none
  deriving DecidableEq

def configLine (path : String) (config : Config) : String :=
  "config: " ++ path ++ " (" ++ toString config.statements.length ++ " statements)\n"

def renderConfig (options : RenderOptions) (config : Config) : Outcome :=
  let stderr := if options.verbose then configLine options.config config else ""
  match config.render options.names with
  | .ok statements =>
      { stdout := String.join (statements.map fun (name, sql) => outputLine options.json name sql)
        stderr }
  | .error error => { stderr, error := some error }

def renderSource (readDocument : DocumentReader) (options : RenderOptions)
    (source : Except ReadError String) : Outcome :=
  match source with
  | .error error => { error := some (.unreadable options.config error) }
  | .ok text =>
      match Config.ofText readDocument text with
      | .error error => { error := some (.unloadable options.config error) }
      | .ok config => renderConfig options config

structure Sources where
  file : String → Except ReadError String
  document : DocumentReader

def Sources.ofFiles (file : String → Except ReadError String) : Sources where
  file
  document := Toml.readDocument

def run (sources : Sources) (arguments : List String) : Outcome :=
  match Command.ofArguments arguments with
  | .error error => { error := some (.arguments error) }
  | .ok (.help topic) => { stdout := topic.text }
  | .ok (.render options) => renderSource sources.document options (sources.file options.config)

end SqlStatement
