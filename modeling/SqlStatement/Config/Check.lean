import SqlStatement.Config.Statement
import SqlStatement.Text.Blank
import SqlStatement.Text.Quoted

/-!
# Rules for configurations

The version is the supported one, and statements are visited in order: a name
that was there before is refused first, then the statement itself is looked at.
Clauses are not looked at here; they are held against the head when the
statement is built.
-/

namespace SqlStatement

inductive RuleError where
  | unsupportedVersion (version : String)
  | duplicateName (name : String)
  | blankName
  | blankTable (name : String)
  /-- Columns are for selections. -/
  | strayColumns (name : String)
  /-- A list of columns, where there is one, is not empty. -/
  | noColumns (name : String)
  /-- An update assigns something. -/
  | noAssignments (name : String)
  /-- Assignments are for updates. -/
  | strayAssignments (name : String)
  deriving DecidableEq

def supportedVersion : String :=
  "1"

namespace RuleError

def about (name text : String) : String :=
  "statements." ++ name ++ ": " ++ text

def message : RuleError → String
  | unsupportedVersion version =>
      "unsupported config version " ++ Text.quoted version ++ " (expected "
        ++ Text.quoted supportedVersion ++ ")"
  | duplicateName name => "duplicate statement name: " ++ name
  | blankName => "statement name must not be empty"
  | blankTable name => about name "table must not be empty"
  | strayColumns name => about name "columns is only valid for select"
  | noColumns name => about name "columns must not be empty (omit it for *)"
  | noAssignments name => about name "update requires at least one set entry"
  | strayAssignments name => about name "set is only valid for update"

end RuleError

namespace NamedStatement

def broken? (statement : NamedStatement) : Option RuleError :=
  let name := statement.name
  if Text.isBlankText name then some .blankName
  else if Text.isBlankText statement.table then some (.blankTable name)
  else if statement.columns.isSome ∧ statement.kind ≠ .select then some (.strayColumns name)
  else if statement.columns = some [] then some (.noColumns name)
  else if statement.kind = .update ∧ statement.assignments = [] then some (.noAssignments name)
  else if statement.kind ≠ .update ∧ statement.assignments ≠ [] then
    some (.strayAssignments name)
  else none

end NamedStatement

/-- The first rule that statements break, after statements with the names `seen`. -/
def brokenFrom? (seen : List String) : List NamedStatement → Option RuleError
  | [] => none
  | statement :: rest =>
      if statement.name ∈ seen then some (.duplicateName statement.name)
      else
        match statement.broken? with
        | some error => some error
        | none => brokenFrom? (statement.name :: seen) rest

namespace Config

def broken? (config : Config) : Option RuleError :=
  if config.version ≠ supportedVersion then some (.unsupportedVersion config.version)
  else brokenFrom? [] config.statements

end Config

end SqlStatement
