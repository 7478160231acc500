import SqlStatement.Kind
import SqlStatement.Table

/-!
# Heads of statements

What a statement does and to which table, before any clause.
-/

namespace SqlStatement

inductive Head where
  | select (columns : Option (List String)) (table : Table)
  | update (table : Table) (assignments : List String)
  | delete (table : Table)
  deriving DecidableEq

namespace Head

def kind : Head → StatementKind
  | select .. => .select
  | update .. => .update
  | delete _ => .delete

def table : Head → Table
  | select _ table => table
  | update table _ => table
  | delete table => table

def projection : Option (List String) → String
  | none => "*"
  | some columns => ", ".intercalate columns

def sql : Head → String
  | select columns table => "SELECT " ++ projection columns ++ " FROM " ++ table.name
  | update table assignments =>
      "UPDATE FROM " ++ table.name ++ " SET " ++ ", ".intercalate assignments
  | delete table => "DELETE FROM " ++ table.name

end Head

end SqlStatement
