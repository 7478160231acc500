import SqlStatement.Config.Check
import SqlStatement.Config.Decode
import SqlStatement.Toml.Document

/-!
# Loading configurations

From the text of a document to a configuration that keeps the rules.  How a
document is read is left open; the program reads it by `Toml.readDocument`.
-/

namespace SqlStatement

abbrev DocumentReader :=
  String → Except Toml.DocumentError (List (String × Toml.Value))

inductive ConfigError where
  | document (error : Toml.DocumentError)
  | misfit (misfit : Misfit)
  | rule (error : RuleError)
  deriving DecidableEq

namespace ConfigError

/-- The message for a person.  The place of what does not fit is left out. -/
def message : ConfigError → String
  | document error => error.message
  | misfit found => "TOML parse error\n" ++ found.message ++ "\n"
  | rule error => error.message

end ConfigError

namespace Config

def ofEntries (entries : List (String × Toml.Value)) : Except ConfigError Config :=
  match shape.ofTable entries with
  | .error misfit => .error (.misfit misfit)
  | .ok config =>
      match config.broken? with
      | some error => .error (.rule error)
      | none => .ok config

def ofText (readDocument : DocumentReader) (text : String) : Except ConfigError Config :=
  match readDocument text with
  | .error error => .error (.document error)
  | .ok entries => ofEntries entries

end Config

end SqlStatement
