import SqlStatement.Build

/-!
# Queries under construction

A head together with the clauses collected so far.  Clauses are added one by
one, and are held against the head only when the query is built; a step that
fails leaves the query as it was.
-/

namespace SqlStatement

structure Query where
  head : Head
  clauses : List Clause := []
  deriving DecidableEq

namespace Query

def push (query : Query) (clause : Clause) : Query :=
  { query with clauses := query.clauses ++ [clause] }

@[simp] theorem push_head (query : Query) (clause : Clause) :
    (query.push clause).head = query.head := rfl

@[simp] theorem push_clauses (query : Query) (clause : Clause) :
    (query.push clause).clauses = query.clauses ++ [clause] := rfl

def build (query : Query) : Except BuildError Sql :=
  SqlStatement.build query.head query.clauses

inductive Step where
  | filter (condition : String)
  | orderBy (column : String)
  | orderByDesc (column : String)
  | limit (requested : Int64)
  | push (clause : Clause)
  /-- Build what is there, and go on. -/
  | build
  deriving DecidableEq

/-- The clause that a step adds, or why it cannot be made; building adds none. -/
def Step.clause? : Step → Option (Except BuildError Clause)
  | .filter condition => some (.ok (.filter condition))
  | .orderBy column => some (.ok (.sort ⟨column, .ascending⟩))
  | .orderByDesc column => some (.ok (.sort ⟨column, .descending⟩))
  | .limit requested => some ((RowLimit.ofInt64 requested).map .limit)
  | .push clause => some (.ok clause)
  | .build => none

inductive Reply where
  | added
  | built (sql : Sql)
  | failed (error : BuildError)
  deriving DecidableEq

def step (query : Query) (asked : Step) : Query × Reply :=
  match asked.clause? with
  | some (.ok clause) => (query.push clause, .added)
  | some (.error error) => (query, .failed error)
  | none =>
      match query.build with
      | .ok sql => (query, .built sql)
      | .error error => (query, .failed error)

def steps (query : Query) : List Step → List (Query × Reply)
  | [] => []
  | asked :: rest =>
      let after := query.step asked
      after :: after.1.steps rest

def after (query : Query) (asked : List Step) : Query :=
  asked.foldl (fun current one => (current.step one).1) query

end Query

end SqlStatement
