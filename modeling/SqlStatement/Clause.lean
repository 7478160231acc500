import SqlStatement.BuildError

/-!
# Clauses

What may follow the head of a statement: a condition, a sort key or a row
limit.  A row limit is positive by its type; `RowLimit.ofInt64` is the one place
that refuses a row count, and a `Clause.Request` is a clause before that check.
-/

namespace SqlStatement

/-- A row count between 1 and 2⁶³ - 1. -/
structure RowLimit where
  count : Nat
  pos : 0 < count
  fits : count < Nat.pow 2 63
  deriving DecidableEq

namespace RowLimit

def ofInt64 (requested : Int64) : Except BuildError RowLimit :=
  if positive : 0 < requested.toInt then
    .ok {
      count := requested.toInt.toNat
      pos := by omega
      fits := by
        have upper := Int64.toInt_lt requested
        simp only [Nat.pow_eq]
        omega }
  else
    .error (.invalidLimit requested)

theorem ofInt64_eq_error_iff {requested : Int64} {error : BuildError} :
    ofInt64 requested = .error error ↔
      requested.toInt ≤ 0 ∧ error = .invalidLimit requested := by
  unfold ofInt64
  split
  · simp
    omega
  · constructor
    · intro h
      cases h
      exact ⟨by omega, rfl⟩
    · rintro ⟨-, rfl⟩
      rfl

theorem count_of_ofInt64 {requested : Int64} {limit : RowLimit}
    (h : ofInt64 requested = .ok limit) : (limit.count : Int) = requested.toInt := by
  unfold ofInt64 at h
  split at h
  · cases h
    show ((requested.toInt.toNat : Nat) : Int) = requested.toInt
    omega
  · cases h

/-- A limit comes from the row count that it holds, and from no other. -/
theorem ofInt64_eq_ok_iff {requested : Int64} {limit : RowLimit} :
    ofInt64 requested = .ok limit ↔ (limit.count : Int) = requested.toInt := by
  constructor
  · exact count_of_ofInt64
  · intro hcount
    have hpos := limit.pos
    cases hmade : ofInt64 requested with
    | error error =>
        have hnonpos := (ofInt64_eq_error_iff.mp hmade).1
        omega
    | ok made =>
        have hmadeCount := count_of_ofInt64 hmade
        obtain ⟨count, _, _⟩ := limit
        obtain ⟨madeCount, _, _⟩ := made
        have hsame : madeCount = count := by
          simp only at hcount hmadeCount
          omega
        simp only [hsame]

theorem exists_count_eq_iff (requested : Int64) :
    (∃ limit : RowLimit, (limit.count : Int) = requested.toInt) ↔ 0 < requested.toInt := by
  constructor
  · intro h
    obtain ⟨limit, hcount⟩ := h
    have hpos := limit.pos
    omega
  · intro hpos
    cases hmade : ofInt64 requested with
    | ok limit => exact ⟨limit, count_of_ofInt64 hmade⟩
    | error error =>
        have hnonpos := (ofInt64_eq_error_iff.mp hmade).1
        omega

/-- A limit fits into the integers it may be asked for by. -/
theorem toInt_ofNat_count (limit : RowLimit) :
    (Int64.ofNat limit.count).toInt = (limit.count : Int) := by
  have hfits := limit.fits
  rw [Nat.pow_eq] at hfits
  exact Int64.toInt_ofNat_of_lt hfits

end RowLimit

structure SortKey where
  column : String
  direction : Direction := default
  deriving DecidableEq

namespace SortKey

/-- The key in SQL.  Ascending is what SQL assumes, so only descending is written. -/
def sql (key : SortKey) : String :=
  match key.direction with
  | .ascending => key.column
  | .descending => key.column ++ " DESC"

end SortKey

/-- One clause.  A condition is not read, and goes into the statement as it stands. -/
inductive Clause where
  | filter (condition : String)
  | sort (key : SortKey)
  | limit (rows : RowLimit)
  deriving DecidableEq

namespace Clause

instance : Coe SortKey Clause :=
  ⟨sort⟩

instance : Coe RowLimit Clause :=
  ⟨limit⟩

def kind : Clause → ClauseKind
  | filter _ => .filter
  | sort _ => .sort
  | limit _ => .limit

def filter? : Clause → Option String
  | filter condition => some condition
  | _ => none

def sort? : Clause → Option SortKey
  | sort key => some key
  | _ => none

def limit? : Clause → Option RowLimit
  | limit rows => some rows
  | _ => none

/-- A clause as it is asked for, its row count not checked yet. -/
inductive Request where
  | filter (condition : String)
  | sort (key : SortKey)
  | limit (requested : Int64)
  deriving DecidableEq

def Request.clause : Request → Except BuildError Clause
  | .filter condition => .ok (.filter condition)
  | .sort key => .ok (.sort key)
  | .limit requested => (RowLimit.ofInt64 requested).map .limit

def ofRequests : List Request → Except BuildError (List Clause)
  | [] => .ok []
  | request :: rest => do
      let clause ← request.clause
      let clauses ← ofRequests rest
      return clause :: clauses

end Clause

end SqlStatement
