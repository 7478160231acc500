/-!
# Kinds of statements, clauses and sort orders

A statement is a head followed by clauses.  Which kinds of clause a head
permits is decided here, once, by `StatementKind.permitted`.
-/

namespace SqlStatement

inductive ClauseKind where
  | filter
  | sort
  | limit
  deriving DecidableEq

namespace ClauseKind

def all : List ClauseKind :=
  [.filter, .sort, .limit]

def keyword : ClauseKind → String
  | .filter => "WHERE"
  | .sort => "ORDER BY"
  | .limit => "LIMIT"

/-- The name of the kind in data. -/
def name : ClauseKind → String
  | .filter => "where"
  | .sort => "order_by"
  | .limit => "limit"

def ofName? (name : String) : Option ClauseKind :=
  all.find? fun kind => kind.name = name

theorem ofName?_name (kind : ClauseKind) : ofName? kind.name = some kind := by
  cases kind <;> decide

end ClauseKind

inductive StatementKind where
  | select
  | update
  | delete
  deriving DecidableEq

namespace StatementKind

def all : List StatementKind :=
  [.select, .update, .delete]

def keyword : StatementKind → String
  | .select => "SELECT"
  | .update => "UPDATE"
  | .delete => "DELETE"

def name : StatementKind → String
  | .select => "select"
  | .update => "update"
  | .delete => "delete"

def ofName? (name : String) : Option StatementKind :=
  all.find? fun kind => kind.name = name

theorem ofName?_name (kind : StatementKind) : ofName? kind.name = some kind := by
  cases kind <;> decide

def permitted : StatementKind → List ClauseKind
  | .select => [.filter, .sort, .limit]
  | .update => [.filter]
  | .delete => [.filter]

def permits (kind : StatementKind) (clause : ClauseKind) : Bool :=
  kind.permitted.contains clause

@[simp] theorem select_permits (clause : ClauseKind) : select.permits clause = true := by
  cases clause <;> rfl

@[simp] theorem permits_filter (kind : StatementKind) : kind.permits .filter = true := by
  cases kind <;> rfl

end StatementKind

inductive Direction where
  | ascending
  | descending
  deriving DecidableEq

namespace Direction

def all : List Direction :=
  [.ascending, .descending]

def name : Direction → String
  | .ascending => "asc"
  | .descending => "desc"

def ofName? (name : String) : Option Direction :=
  all.find? fun direction => direction.name = name

theorem ofName?_name (direction : Direction) : ofName? direction.name = some direction := by
  cases direction <;> decide

instance : Inhabited Direction :=
  ⟨.ascending⟩

end Direction

end SqlStatement
