import SqlStatement.Sql

/-!
# Building statements

`build` validates and writes.  `assemble` does the same for parts in which head
and clauses are mixed, and wants exactly one head among them.  In `declare` what
a part holds may stand for the part.
-/

namespace SqlStatement

def build (head : Head) (clauses : List Clause) : Except BuildError Sql :=
  (head.validate clauses).map (render head)

inductive Part where
  | head (opening : Head)
  | clause (added : Clause)
  deriving DecidableEq

namespace Part

instance : Coe Head Part :=
  ⟨head⟩

instance : Coe Clause Part :=
  ⟨clause⟩

def head? : Part → Option Head
  | .head opening => some opening
  | .clause _ => none

def clause? : Part → Option Clause
  | .head _ => none
  | .clause added => some added

inductive Request where
  | head (opening : Head)
  | clause (request : Clause.Request)
  deriving DecidableEq

def Request.part : Request → Except BuildError Part
  | .head opening => .ok (.head opening)
  | .clause request => request.clause.map .clause

def ofRequests : List Request → Except BuildError (List Part)
  | [] => .ok []
  | request :: rest => do
      let part ← request.part
      let parts ← ofRequests rest
      return part :: parts

/-- What may be written where a part is wanted: a part, a head, a clause, or what a clause holds. -/
inductive Source where
  | part (given : Part)
  | head (opening : Head)
  | clause (added : Clause)
  | filter (condition : String)
  | sort (key : SortKey)
  | limit (rows : RowLimit)
  deriving DecidableEq

def Source.toPart : Source → Part
  | .part given => given
  | .head opening => opening
  | .clause added => added
  | .filter condition => Clause.filter condition
  | .sort key => (key : Clause)
  | .limit rows => (rows : Clause)

end Part

/--
Build a statement from its parts.  The heads are counted before the clauses are
validated; the clauses keep their order, wherever the head stands.
-/
def assemble (parts : List Part) : Except BuildError Sql :=
  match parts.filterMap Part.head? with
  | [head] => build head (parts.filterMap Part.clause?)
  | heads => .error (.headCount heads.length)

def declare (sources : List Part.Source) : Except BuildError Sql :=
  assemble (sources.map Part.Source.toPart)

end SqlStatement
