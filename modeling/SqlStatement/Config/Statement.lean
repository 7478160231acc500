import SqlStatement.Build

/-!
# Named statements

What a configuration says about one statement, and the statement that follows
from it.  The clauses stand in a fixed order: conditions, sort keys, limits.
-/

namespace SqlStatement

structure NamedStatement where
  name : String
  kind : StatementKind
  table : String
  /-- The columns of a selection; none means all of them. -/
  columns : Option (List String) := none
  assignments : List String := []
  filters : List String := []
  sortKeys : List SortKey := []
  /-- The row counts asked for, not checked yet. -/
  limits : List Int64 := []
  deriving DecidableEq

structure StatementError where
  name : String
  cause : BuildError
  deriving DecidableEq

namespace StatementError

def message (error : StatementError) : String :=
  "statements." ++ error.name ++ ": " ++ error.cause.message

end StatementError

namespace NamedStatement

/-- The head of the statement.  Columns count for selections only, assignments for updates only. -/
def head (statement : NamedStatement) : Head :=
  match statement.kind with
  | .select => .select statement.columns ⟨statement.table⟩
  | .update => .update ⟨statement.table⟩ statement.assignments
  | .delete => .delete ⟨statement.table⟩

def requests (statement : NamedStatement) : List Clause.Request :=
  statement.filters.map .filter ++ statement.sortKeys.map .sort ++ statement.limits.map .limit

def clauses (statement : NamedStatement) : Except BuildError (List Clause) :=
  Clause.ofRequests statement.requests

/-- Build the statement.  A bad row count is found before a clause that does not belong. -/
def build (statement : NamedStatement) : Except BuildError Sql := do
  SqlStatement.build statement.head (← statement.clauses)

def buildNamed (statement : NamedStatement) : Except StatementError Sql :=
  statement.build.mapError fun cause => ⟨statement.name, cause⟩

end NamedStatement

structure Config where
  version : String
  statements : List NamedStatement := []
  deriving DecidableEq

end SqlStatement
