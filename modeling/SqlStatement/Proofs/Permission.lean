import SqlStatement.ClauseSet
import SqlStatement.Proofs.Traversal

/-! # Which clauses a head admits

`Admits` states the rule of permitted clauses without the tables that the
program consults. Validation is read against it: a list is kept whole, or it is
refused because of its first clause that is not admitted.
-/

namespace SqlStatement

namespace StatementKind

/-- Conditions go with every statement, sort keys and limits with selections alone. -/
def Admits : StatementKind → ClauseKind → Prop
  | _, .filter => True
  | kind, .sort => kind = .select
  | kind, .limit => kind = .select

theorem permits_iff_admits (kind : StatementKind) (clause : ClauseKind) :
    kind.permits clause = true ↔ kind.Admits clause := by
  cases clause with
  | filter => simp [Admits]
  | sort => cases kind <;> simp [Admits, permits, permitted]
  | limit => cases kind <;> simp [Admits, permits, permitted]

def AdmitsAll (kind : StatementKind) (clauses : List Clause) : Prop :=
  ∀ clause ∈ clauses, kind.Admits clause.kind

/-- The first clause of a list that does not go with the statement. -/
def FirstOffender (kind : StatementKind) (clauses : List Clause) (offender : Clause) : Prop :=
  ∃ before after, clauses = before ++ offender :: after ∧ kind.AdmitsAll before ∧
    ¬ kind.Admits offender.kind

/-- The search that validation makes, which looks for a clause that is not permitted. -/
theorem find?_not_permits_eq_none_iff (kind : StatementKind) (clauses : List Clause) :
    (clauses.find? fun clause => !kind.permits clause.kind) = none ↔ kind.AdmitsAll clauses :=
  find?_not_eq_none_iff (fun clause => kind.permits_iff_admits clause.kind) clauses

theorem find?_not_permits_eq_some_iff (kind : StatementKind) (clauses : List Clause)
    (offender : Clause) :
    (clauses.find? fun clause => !kind.permits clause.kind) = some offender ↔
      kind.FirstOffender clauses offender :=
  find?_not_eq_some_iff (fun clause => kind.permits_iff_admits clause.kind) clauses offender

theorem firstOffender_append_iff {kind : StatementKind} {before : List Clause}
    (hbefore : kind.AdmitsAll before) (rest : List Clause) (offender : Clause) :
    kind.FirstOffender (before ++ rest) offender ↔ kind.FirstOffender rest offender := by
  rw [← find?_not_permits_eq_some_iff, ← find?_not_permits_eq_some_iff, List.find?_append,
    (find?_not_permits_eq_none_iff kind before).mpr hbefore, Option.none_or]

theorem firstOffender_cons_iff {kind : StatementKind} {clause : Clause}
    (hclause : ¬ kind.Admits clause.kind) (rest : List Clause) (offender : Clause) :
    kind.FirstOffender (clause :: rest) offender ↔ offender = clause := by
  rw [← permits_iff_admits, Bool.not_eq_true] at hclause
  rw [← find?_not_permits_eq_some_iff]
  simp [hclause, eq_comm]

theorem not_firstOffender_of_admitsAll {kind : StatementKind} {clauses : List Clause}
    (h : kind.AdmitsAll clauses) (offender : Clause) : ¬ kind.FirstOffender clauses offender := by
  rw [← find?_not_permits_eq_some_iff, (find?_not_permits_eq_none_iff kind clauses).mpr h]
  simp

/-- Accepted clauses are kept as they are, none lost and none moved. -/
theorem validate_eq_ok_iff (kind : StatementKind) (clauses : List Clause) (set : ClauseSet) :
    kind.validate clauses = .ok set ↔ kind.AdmitsAll clauses ∧ set = ⟨clauses⟩ := by
  rw [← find?_not_permits_eq_none_iff]
  unfold validate
  cases clauses.find? fun clause => !kind.permits clause.kind with
  | none => simp [eq_comm]
  | some offender => simp

theorem validate_eq_error_iff (kind : StatementKind) (clauses : List Clause) (error : BuildError) :
    kind.validate clauses = .error error ↔
      ∃ offender, kind.FirstOffender clauses offender ∧
        error = .illegalClause offender.kind kind := by
  simp only [← find?_not_permits_eq_some_iff]
  unfold validate
  cases clauses.find? fun clause => !kind.permits clause.kind with
  | none => simp
  | some offender => simp [eq_comm]

end StatementKind

end SqlStatement
