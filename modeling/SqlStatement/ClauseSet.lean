import SqlStatement.Clause
import SqlStatement.Head

/-!
# Validated clauses

`validate` holds a list of clauses against a head.  It keeps every clause, in
order and with repetitions, or refuses the list because of the first clause
that the head does not permit; nothing is dropped silently.
-/

namespace SqlStatement

/-- Clauses in the order in which they were given. -/
structure ClauseSet where
  toList : List Clause
  deriving DecidableEq

namespace ClauseSet

def empty : ClauseSet :=
  ⟨[]⟩

def length (set : ClauseSet) : Nat :=
  set.toList.length

def isEmpty (set : ClauseSet) : Bool :=
  set.toList.isEmpty

def filters (set : ClauseSet) : List String :=
  set.toList.filterMap Clause.filter?

def sortKeys (set : ClauseSet) : List SortKey :=
  set.toList.filterMap Clause.sort?

def limits (set : ClauseSet) : List RowLimit :=
  set.toList.filterMap Clause.limit?

def countOf (set : ClauseSet) (kind : ClauseKind) : Nat :=
  set.toList.countP fun clause => clause.kind = kind

end ClauseSet

def StatementKind.validate (kind : StatementKind) (clauses : List Clause) :
    Except BuildError ClauseSet :=
  match clauses.find? fun clause => !kind.permits clause.kind with
  | some clause => .error (.illegalClause clause.kind kind)
  | none => .ok ⟨clauses⟩

def Head.validate (head : Head) (clauses : List Clause) : Except BuildError ClauseSet :=
  head.kind.validate clauses

end SqlStatement
