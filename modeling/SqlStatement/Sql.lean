import SqlStatement.ClauseSet
import SqlStatement.Text.JsonString

/-!
# The text of a statement

`render` writes a head and its clauses: the head, then the conditions, the sort
keys and the limits, each kind gathered into one segment in the order given,
then a semicolon.  It does not ask whether the head permits the clauses.
-/

namespace SqlStatement

structure Sql where
  text : String
  deriving DecidableEq

namespace Sql

def json (sql : Sql) : String :=
  Text.jsonString sql.text

def report (sql : Sql) : String :=
  "sql string: " ++ sql.text ++ "\n"

end Sql

/-- Items behind a lead and between separators; no item, no segment. -/
def segment (lead separator : String) : List String → String
  | [] => ""
  | items => lead ++ separator.intercalate items

@[simp] theorem segment_nil (lead separator : String) : segment lead separator [] = "" := rfl

namespace ClauseSet

def sql (set : ClauseSet) : String :=
  segment " WHERE " " AND " set.filters
    ++ segment " ORDER BY " ", " (set.sortKeys.map SortKey.sql)
    ++ segment " LIMIT " ", " (set.limits.map fun rows => toString rows.count)

end ClauseSet

def render (head : Head) (clauses : ClauseSet) : Sql :=
  ⟨head.sql ++ clauses.sql ++ ";"⟩

end SqlStatement
