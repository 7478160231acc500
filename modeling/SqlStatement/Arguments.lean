import SqlStatement.Text.Pieces

/-!
# Command-line arguments

The words after the program's name: help, or the command `render` with its
options.  Options are read from the left, and each one stands on its own; an
option with a value takes the next word, whatever it is, unless the value is
attached to it by an equals sign.
-/

namespace SqlStatement

inductive HelpTopic where
  | program
  | render
  deriving DecidableEq

structure RenderOptions where
  config : String := "sqlkit.toml"
  /-- The statements asked for; none means all of them. -/
  names : List String := []
  /-- One JSON object per line. -/
  json : Bool := false
  /-- Say which configuration was read. -/
  verbose : Bool := false
  deriving DecidableEq

inductive Command where
  | help (topic : HelpTopic)
  | render (options : RenderOptions)
  deriving DecidableEq

inductive ValueOption where
  | config
  | name
  deriving DecidableEq

namespace ValueOption

def flag : ValueOption → String
  | config => "--config"
  | name => "--name"

def lead (option : ValueOption) : List Char :=
  option.flag.toList ++ ['=']

/-- The value attached to the option in one word; copies of the lead do not belong to it. -/
def attached? (option : ValueOption) (word : String) : Option String :=
  if option.lead.isPrefixOf word.toList then
    some (String.ofList (Text.dropCopies option.lead word.toList))
  else
    none

end ValueOption

inductive ArgumentError where
  | unknownCommand (word : String)
  | unknownArgument (word : String)
  | missingValue (option : ValueOption)
  deriving DecidableEq

namespace ArgumentError

def message : ArgumentError → String
  | unknownCommand word => "unknown command: " ++ word
  | unknownArgument word => "unknown argument: " ++ word
  | missingValue option => option.flag ++ " requires a value"

end ArgumentError

inductive OptionWord where
  | help
  | json
  | verbose
  /-- An option whose value is the next word. -/
  | awaiting (option : ValueOption)
  | assigned (option : ValueOption) (value : String)
  | unknown
  deriving DecidableEq

namespace OptionWord

def ofWord (word : String) : OptionWord :=
  if word = "-h" ∨ word = "--help" then .help
  else if word = "--json" then .json
  else if word = "-v" ∨ word = "--verbose" then .verbose
  else if word = ValueOption.config.flag then .awaiting .config
  else if word = ValueOption.name.flag then .awaiting .name
  else
    match ValueOption.config.attached? word, ValueOption.name.attached? word with
    | some value, _ => .assigned .config value
    | none, some value => .assigned .name value
    | none, none => .unknown

end OptionWord

namespace RenderOptions

/-- Give an option its value: the last configuration counts, names are collected. -/
def assign (options : RenderOptions) : ValueOption → String → RenderOptions
  | .config, value => { options with config := value }
  | .name, value => { options with names := options.names ++ Text.items value }

/--
Read the options that follow, on top of those read so far.  Help ends the
reading, and so does the first word that cannot be read.
-/
def read (options : RenderOptions) : List String → Except ArgumentError Command
  | [] => .ok (.render options)
  | word :: rest =>
      match OptionWord.ofWord word with
      | .help => .ok (.help .render)
      | .json => read { options with json := true } rest
      | .verbose => read { options with verbose := true } rest
      | .assigned option value => read (options.assign option value) rest
      | .awaiting option =>
          match rest with
          | [] => .error (.missingValue option)
          | value :: rest => read (options.assign option value) rest
      | .unknown => .error (.unknownArgument word)

end RenderOptions

def Command.ofArguments (arguments : List String) : Except ArgumentError Command :=
  match arguments.drop 1 with
  | [] => .ok (.help .program)
  | word :: rest =>
      if word = "-h" ∨ word = "--help" then .ok (.help .program)
      else if word = "render" then RenderOptions.read {} rest
      else .error (.unknownCommand word)

end SqlStatement
