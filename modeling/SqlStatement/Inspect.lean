import SqlStatement.BuildError
import SqlStatement.Head
import SqlStatement.Text.Quoted

/-!
# Values for inspection

The structural text of tables, heads and errors: constructor, fields and quoted
names, as they appear in diagnostics.
-/

namespace SqlStatement

def inspectTexts (texts : List String) : String :=
  "[" ++ ", ".intercalate (texts.map Text.quoted) ++ "]"

def inspectFields (constructor : String) (fields : List (String × String)) : String :=
  constructor ++ " \x7b " ++
    ", ".intercalate (fields.map fun (name, text) => name ++ ": " ++ text) ++ " \x7d"

namespace Table

def inspect (table : Table) : String :=
  "TableRef(" ++ Text.quoted table.name ++ ")"

end Table

namespace Head

def inspect : Head → String
  | select none table =>
      inspectFields "Select" [("columns", "None"), ("from", table.inspect)]
  | select (some columns) table =>
      inspectFields "Select"
        [("columns", "Some(" ++ inspectTexts columns ++ ")"), ("from", table.inspect)]
  | update table assignments =>
      inspectFields "Update"
        [("from", table.inspect), ("assignments", inspectTexts assignments)]
  | delete table => inspectFields "Delete" [("from", table.inspect)]

end Head

namespace ClauseKind

def inspect : ClauseKind → String
  | filter => "Where"
  | sort => "OrderBy"
  | limit => "Limit"

end ClauseKind

namespace StatementKind

def inspect : StatementKind → String
  | select => "Select"
  | update => "Update"
  | delete => "Delete"

end StatementKind

namespace BuildError

def inspect : BuildError → String
  | illegalClause clause statement =>
      inspectFields "IllegalClause"
        [("offending_kind", clause.inspect), ("head_kind", statement.inspect)]
  | headCount count => inspectFields "MissingOrDuplicateHead" [("count", toString count)]
  | invalidLimit requested => "InvalidLimit(" ++ toString requested.toInt ++ ")"

end BuildError

end SqlStatement
