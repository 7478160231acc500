import SqlStatement.Kind

/-!
# Why a statement cannot be built

Three causes, each with its message.
-/

namespace SqlStatement

inductive BuildError where
  | illegalClause (clause : ClauseKind) (statement : StatementKind)
  | headCount (count : Nat)
  | invalidLimit (requested : Int64)
  deriving DecidableEq

namespace BuildError

def message : BuildError → String
  | illegalClause clause statement =>
      clause.keyword ++ " clause is not permitted in " ++ statement.keyword ++ " statements"
  | headCount count =>
      "expected exactly one head statement, got " ++ toString count
  | invalidLimit requested =>
      "LIMIT row count must be > 0, got " ++ toString requested.toInt

def isIllegalClause : BuildError → Bool
  | illegalClause .. => true
  | _ => false

def isHeadCount : BuildError → Bool
  | headCount _ => true
  | _ => false

def isInvalidLimit : BuildError → Bool
  | invalidLimit _ => true
  | _ => false

end BuildError

end SqlStatement
