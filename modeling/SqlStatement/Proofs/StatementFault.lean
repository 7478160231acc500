import SqlStatement.Config.Statement
import SqlStatement.Proofs.Layout
import SqlStatement.Proofs.Traversal

/-! # What is wrong with a statement

A statement of a configuration fails because of a row count, or else because of
a clause that does not belong to it. The faults are stated here without building
anything, and the build is shown to find exactly them.
-/

namespace SqlStatement

/-! ## Requests -/

theorem Clause.ofRequests_eq_mapM (requests : List Clause.Request) :
    Clause.ofRequests requests = requests.mapM Clause.Request.clause := by
  induction requests with
  | nil => rfl
  | cons request rest ih => rw [Clause.ofRequests, List.mapM_cons, ih]

theorem Clause.mapM_limit (limits : List Int64) :
    (limits.map Clause.Request.limit).mapM Clause.Request.clause =
      (limits.mapM RowLimit.ofInt64).map (List.map Clause.limit) := by
  induction limits with
  | nil => rfl
  | cons requested rest ih =>
      rw [List.map_cons, List.mapM_cons, List.mapM_cons, ih]
      show ((RowLimit.ofInt64 requested).map Clause.limit >>= fun _ => _) = _
      cases RowLimit.ofInt64 requested with
      | error error => rfl
      | ok rows => cases rest.mapM RowLimit.ofInt64 <;> rfl

theorem RowLimit.exists_ofInt64_iff (requested : Int64) :
    (∃ rows, RowLimit.ofInt64 requested = .ok rows) ↔ 0 < requested.toInt := by
  simp only [RowLimit.ofInt64_eq_ok_iff, RowLimit.exists_count_eq_iff]

theorem RowLimit.pos_of_mapM {limits : List Int64} {rows : List RowLimit}
    (hrows : limits.mapM RowLimit.ofInt64 = .ok rows) :
    rows.length = limits.length ∧ ∀ requested ∈ limits, 0 < requested.toInt := by
  have hpairs := (mapM_eq_ok_iff _ _ _).mp hrows
  refine ⟨hpairs.length_eq.symm, ?_⟩
  clear hrows
  induction hpairs with
  | nil => simp
  | cons hfirst hrest ih =>
      intro requested hin
      rcases List.mem_cons.mp hin with rfl | hin
      · exact (RowLimit.exists_ofInt64_iff _).mp ⟨_, hfirst⟩
      · exact ih requested hin

namespace NamedStatement

/-- The clauses of the statement, its row counts checked. -/
def clausesWith (statement : NamedStatement) (rows : List RowLimit) : List Clause :=
  statement.filters.map .filter ++ statement.sortKeys.map .sort ++ rows.map .limit

theorem clauses_eq (statement : NamedStatement) :
    statement.clauses = (statement.limits.mapM RowLimit.ofInt64).map statement.clausesWith := by
  have hfilters : (statement.filters.map Clause.Request.filter).mapM Clause.Request.clause =
      .ok (statement.filters.map Clause.filter) := by
    rw [List.mapM_map]
    exact List.mapM_pure
  have hkeys : (statement.sortKeys.map Clause.Request.sort).mapM Clause.Request.clause =
      .ok (statement.sortKeys.map Clause.sort) := by
    rw [List.mapM_map]
    exact List.mapM_pure
  unfold clauses requests
  rw [Clause.ofRequests_eq_mapM, List.mapM_append, List.mapM_append, hfilters, hkeys,
    Clause.mapM_limit]
  cases statement.limits.mapM RowLimit.ofInt64 with
  | error error => rfl
  | ok rows => rfl

/-- What is wrong with a statement: a bad row count comes before any clause out of place. -/
inductive Fault (statement : NamedStatement) : BuildError → Prop
  | rowCount {before requested after} (hlimits : statement.limits = before ++ requested :: after)
      (hbefore : ∀ earlier ∈ before, 0 < earlier.toInt) (hrequested : requested.toInt ≤ 0) :
      Fault statement (.invalidLimit requested)
  | sortKey (hlimits : ∀ requested ∈ statement.limits, 0 < requested.toInt)
      (hkind : statement.kind ≠ .select) (hkeys : statement.sortKeys ≠ []) :
      Fault statement (.illegalClause .sort statement.kind)
  | limit (hlimits : ∀ requested ∈ statement.limits, 0 < requested.toInt)
      (hkind : statement.kind ≠ .select) (hkeys : statement.sortKeys = [])
      (hsome : statement.limits ≠ []) :
      Fault statement (.illegalClause .limit statement.kind)

def Sound (statement : NamedStatement) : Prop :=
  ∀ cause, ¬ statement.Fault cause

theorem head_kind (statement : NamedStatement) : statement.head.kind = statement.kind := by
  unfold head
  cases statement.kind <;> rfl

theorem firstError_limits_iff (statement : NamedStatement) (cause : BuildError) :
    FirstError RowLimit.ofInt64 statement.limits cause ↔
      ∃ before requested after, statement.limits = before ++ requested :: after ∧
        (∀ earlier ∈ before, 0 < earlier.toInt) ∧ requested.toInt ≤ 0 ∧
        cause = .invalidLimit requested := by
  simp only [FirstError, RowLimit.exists_ofInt64_iff, RowLimit.ofInt64_eq_error_iff]

/-- A clause out of place is the first sort key, or else the first row limit. -/
theorem firstOffender_clausesWith (statement : NamedStatement) (rows : List RowLimit)
    (offender : Clause) :
    statement.kind.FirstOffender (statement.clausesWith rows) offender ↔
      statement.kind ≠ .select ∧
        ((∃ key keys, statement.sortKeys = key :: keys ∧ offender = .sort key) ∨
          (statement.sortKeys = [] ∧ ∃ first rest, rows = first :: rest ∧
            offender = .limit first)) := by
  have hfilters : statement.kind.AdmitsAll (statement.filters.map .filter) := by
    intro clause hclause
    obtain ⟨condition, -, rfl⟩ := List.mem_map.mp hclause
    trivial
  unfold clausesWith
  rw [List.append_assoc, StatementKind.firstOffender_append_iff hfilters]
  by_cases hselect : statement.kind = .select
  · have hall : statement.kind.AdmitsAll
        (statement.sortKeys.map .sort ++ rows.map .limit) := by
      intro clause _
      rw [hselect, ← StatementKind.permits_iff_admits]
      exact StatementKind.select_permits clause.kind
    have hnone := StatementKind.not_firstOffender_of_admitsAll hall offender
    simp [hselect] at hnone ⊢
    exact hnone
  · cases statement.sortKeys with
    | cons key keys =>
        have hsort : ¬ statement.kind.Admits (Clause.sort key).kind := hselect
        rw [List.map_cons, List.cons_append, StatementKind.firstOffender_cons_iff hsort]
        simp [hselect]
    | nil =>
        cases rows with
        | nil =>
            have hall : statement.kind.AdmitsAll [] := by simp [StatementKind.AdmitsAll]
            have hnone := StatementKind.not_firstOffender_of_admitsAll hall offender
            simpa using hnone
        | cons first rest =>
            have hlimit : ¬ statement.kind.Admits (Clause.limit first).kind := hselect
            rw [List.map_nil, List.nil_append, List.map_cons,
              StatementKind.firstOffender_cons_iff hlimit]
            simp [hselect]

theorem build_eq_bind (statement : NamedStatement) :
    statement.build = (statement.limits.mapM RowLimit.ofInt64).bind fun rows =>
      SqlStatement.build statement.head (statement.clausesWith rows) := by
  show (statement.clauses.bind fun clauses => SqlStatement.build statement.head clauses) = _
  rw [clauses_eq]
  cases statement.limits.mapM RowLimit.ofInt64 <;> rfl

theorem fault_iff (statement : NamedStatement) (cause : BuildError) :
    statement.Fault cause ↔
      FirstError RowLimit.ofInt64 statement.limits cause ∨
        ((∀ requested ∈ statement.limits, 0 < requested.toInt) ∧ statement.kind ≠ .select ∧
          ((statement.sortKeys ≠ [] ∧ cause = .illegalClause .sort statement.kind) ∨
            (statement.sortKeys = [] ∧ statement.limits ≠ [] ∧
              cause = .illegalClause .limit statement.kind))) := by
  rw [firstError_limits_iff]
  constructor
  · intro hfault
    cases hfault with
    | rowCount hlimits hbefore hrequested =>
        exact Or.inl ⟨_, _, _, hlimits, hbefore, hrequested, rfl⟩
    | sortKey hlimits hkind hkeys => exact Or.inr ⟨hlimits, hkind, Or.inl ⟨hkeys, rfl⟩⟩
    | limit hlimits hkind hkeys hsome =>
        exact Or.inr ⟨hlimits, hkind, Or.inr ⟨hkeys, hsome, rfl⟩⟩
  · intro h
    rcases h with ⟨before, requested, after, hlimits, hbefore, hrequested, rfl⟩ |
      ⟨hlimits, hkind, ⟨hkeys, rfl⟩ | ⟨hkeys, hsome, rfl⟩⟩
    · exact .rowCount hlimits hbefore hrequested
    · exact .sortKey hlimits hkind hkeys
    · exact .limit hlimits hkind hkeys hsome

theorem build_clausesWith_eq_error_iff (statement : NamedStatement) (rows : List RowLimit)
    (cause : BuildError) :
    SqlStatement.build statement.head (statement.clausesWith rows) = .error cause ↔
      statement.kind ≠ .select ∧
        ((statement.sortKeys ≠ [] ∧ cause = .illegalClause .sort statement.kind) ∨
          (statement.sortKeys = [] ∧ rows ≠ [] ∧
            cause = .illegalClause .limit statement.kind)) := by
  rw [SqlStatement.build_eq_error_iff, head_kind]
  simp only [firstOffender_clausesWith]
  constructor
  · intro h
    rcases h with
      ⟨offender, ⟨hkind, ⟨key, keys, hkeys, rfl⟩ | ⟨hkeys, first, rest, hrows, rfl⟩⟩, rfl⟩
    · exact ⟨hkind, Or.inl ⟨by simp [hkeys], rfl⟩⟩
    · exact ⟨hkind, Or.inr ⟨hkeys, by simp [hrows], rfl⟩⟩
  · intro h
    rcases h with ⟨hkind, ⟨hkeys, rfl⟩ | ⟨hkeys, hrows, rfl⟩⟩
    · obtain ⟨key, keys, hkeys⟩ := List.exists_cons_of_ne_nil hkeys
      exact ⟨_, ⟨hkind, Or.inl ⟨key, keys, hkeys, rfl⟩⟩, rfl⟩
    · obtain ⟨first, rest, hrows⟩ := List.exists_cons_of_ne_nil hrows
      exact ⟨_, ⟨hkind, Or.inr ⟨hkeys, first, rest, hrows, rfl⟩⟩, rfl⟩

/-- A build fails with what is wrong with the statement, and with nothing else. -/
theorem build_eq_error_iff (statement : NamedStatement) (cause : BuildError) :
    statement.build = .error cause ↔ statement.Fault cause := by
  rw [build_eq_bind, fault_iff, ← mapM_eq_error_iff]
  cases hrows : statement.limits.mapM RowLimit.ofInt64 with
  | error error =>
      obtain ⟨before, requested, after, hlimits, -, hrequested, -⟩ :=
        (firstError_limits_iff statement error).mp ((mapM_eq_error_iff _ _ _).mp hrows)
      have hbad : ¬ ∀ requested ∈ statement.limits, 0 < requested.toInt := by
        intro hall
        have hpos := hall requested (by simp [hlimits])
        omega
      simp [Except.bind, hbad]
  | ok rows =>
      obtain ⟨hlength, hpos⟩ := RowLimit.pos_of_mapM hrows
      have hsome : rows ≠ [] ↔ statement.limits ≠ [] := by
        rw [← List.length_pos_iff, ← List.length_pos_iff, hlength]
      have hbuild := build_clausesWith_eq_error_iff statement rows cause
      rw [hsome] at hbuild
      simp only [Except.bind, reduceCtorEq, false_or, and_iff_right hpos, hbuild]

-- The sort key does not belong to a deletion either, but the bad row count is told.
example :
    build
      { name := "bad", kind := .delete, table := "t"
        sortKeys := [⟨"a", .ascending⟩], limits := [3, 0, -1] } = .error (.invalidLimit 0) := by
  decide +kernel

theorem sound_iff (statement : NamedStatement) :
    statement.Sound ↔ ∃ sql, statement.build = .ok sql := by
  unfold Sound
  simp only [← build_eq_error_iff]
  cases statement.build <;> simp

theorem buildNamed_eq_ok_iff (statement : NamedStatement) (sql : Sql) :
    statement.buildNamed = .ok sql ↔ statement.build = .ok sql := by
  unfold buildNamed
  cases statement.build <;> simp [Except.mapError]

theorem buildNamed_eq_error_iff (statement : NamedStatement) (error : StatementError) :
    statement.buildNamed = .error error ↔
      statement.name = error.name ∧ statement.Fault error.cause := by
  rw [← build_eq_error_iff]
  unfold buildNamed
  obtain ⟨name, cause⟩ := error
  cases statement.build <;> simp [Except.mapError]

end NamedStatement

end SqlStatement
