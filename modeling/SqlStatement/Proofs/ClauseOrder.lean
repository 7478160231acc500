import SqlStatement.Proofs.StatementFault

/-! # Clauses in another order

A statement of a configuration has its clauses in a fixed order. Any other order
that keeps each kind in its own order gives the same text, and it is accepted by
the same heads. Only the clause that an error names depends on the order: in the
fixed order it is a sort key if there is one.
-/

namespace SqlStatement

namespace Interleaving

variable {clauses others : List Clause} {conditions : List String} {keys : List SortKey}
  {limits : List RowLimit}

theorem filters_append (conditions : List String)
    (h : Interleaving clauses [] keys limits) :
    Interleaving (conditions.map .filter ++ clauses) conditions keys limits := by
  induction conditions with
  | nil => exact h
  | cons condition rest ih => exact .filter condition ih

theorem sortKeys_append (keys : List SortKey) (h : Interleaving clauses [] [] limits) :
    Interleaving (keys.map .sort ++ clauses) [] keys limits := by
  induction keys with
  | nil => exact h
  | cons key rest ih => exact .sort key ih

theorem of_limits (limits : List RowLimit) :
    Interleaving (limits.map .limit) [] [] limits := by
  induction limits with
  | nil => exact .nil
  | cons rows rest ih => exact .limit rows ih

/-- Whether a head admits all clauses depends on which kinds there are. -/
theorem admitsAll_iff (h : Interleaving clauses conditions keys limits) (kind : StatementKind) :
    kind.AdmitsAll clauses ↔ kind = .select ∨ (keys = [] ∧ limits = []) := by
  induction h with
  | nil => simp [StatementKind.AdmitsAll]
  | filter condition rest ih =>
      rw [StatementKind.AdmitsAll, List.forall_mem_cons, ← StatementKind.AdmitsAll, ih]
      simp [Clause.kind, StatementKind.Admits]
  | sort key rest ih =>
      rw [StatementKind.AdmitsAll, List.forall_mem_cons, ← StatementKind.AdmitsAll, ih]
      simp only [Clause.kind, StatementKind.Admits, reduceCtorEq, false_and, or_false]
      exact and_iff_left_of_imp Or.inl
  | limit rows rest ih =>
      rw [StatementKind.AdmitsAll, List.forall_mem_cons, ← StatementKind.AdmitsAll, ih]
      simp only [Clause.kind, StatementKind.Admits, reduceCtorEq, and_false, or_false]
      exact and_iff_left_of_imp Or.inl

theorem render_eq (h : Interleaving clauses conditions keys limits)
    (hother : Interleaving others conditions keys limits) (head : Head) :
    render head ⟨clauses⟩ = render head ⟨others⟩ := by
  obtain ⟨hconditions, hkeys, hlimits⟩ := h.parts
  obtain ⟨hconditions', hkeys', hlimits'⟩ := hother.parts
  have htext : (render head ⟨clauses⟩).text = (render head ⟨others⟩).text := by
    rw [render_text_eq_layout, render_text_eq_layout, hconditions, hkeys, hlimits, hconditions',
      hkeys', hlimits']
  exact congrArg Sql.mk htext

theorem build_eq_ok_iff (h : Interleaving clauses conditions keys limits)
    (hother : Interleaving others conditions keys limits) (head : Head) (sql : Sql) :
    build head clauses = .ok sql ↔ build head others = .ok sql := by
  rw [SqlStatement.build_eq_ok_iff, SqlStatement.build_eq_ok_iff, h.admitsAll_iff,
    hother.admitsAll_iff, h.render_eq hother]

end Interleaving

/-- Limits for row counts, one for each. -/
def Counted (requested : List Int64) (limits : List RowLimit) : Prop :=
  limits.map (fun rows => (rows.count : Int)) = requested.map Int64.toInt

theorem counted_iff_mapM (requested : List Int64) (limits : List RowLimit) :
    Counted requested limits ↔ requested.mapM RowLimit.ofInt64 = .ok limits := by
  rw [mapM_eq_ok_iff]
  unfold Counted
  simp only [RowLimit.ofInt64_eq_ok_iff]
  induction requested generalizing limits with
  | nil => simp
  | cons first rest ih =>
      cases limits with
      | nil => simp
      | cons rows others =>
          rw [List.forall₂_cons, ← ih]
          simp

theorem exists_counted_iff (requested : List Int64) :
    (∃ limits, Counted requested limits) ↔ ∀ count ∈ requested, 0 < count.toInt := by
  simp only [counted_iff_mapM]
  constructor
  · intro h
    obtain ⟨limits, hlimits⟩ := h
    exact (RowLimit.pos_of_mapM hlimits).2
  · intro hpos
    cases hmade : requested.mapM RowLimit.ofInt64 with
    | ok limits => exact ⟨limits, rfl⟩
    | error error =>
        obtain ⟨before, count, after, hsplit, -, hcount⟩ := (mapM_eq_error_iff _ _ _).mp hmade
        have hnonpos := (RowLimit.ofInt64_eq_error_iff.mp hcount).1
        have hpositive := hpos count (by simp [hsplit])
        omega

namespace NamedStatement

variable (statement : NamedStatement)

theorem interleaving_clausesWith (rows : List RowLimit) :
    Interleaving (statement.clausesWith rows) statement.filters statement.sortKeys rows := by
  unfold clausesWith
  rw [List.append_assoc]
  exact .filters_append _ (.sortKeys_append _ (.of_limits rows))

theorem build_eq_of_counted {rows : List RowLimit} (hrows : Counted statement.limits rows) :
    statement.build = SqlStatement.build statement.head (statement.clausesWith rows) := by
  rw [build_eq_bind, (counted_iff_mapM _ _).mp hrows]
  rfl

/-- With sound row counts, what is wrong is a clause out of place; a sort key is told first. -/
theorem fault_eq_of_pos {cause : BuildError} (hfault : statement.Fault cause)
    (hpos : ∀ requested ∈ statement.limits, 0 < requested.toInt) :
    cause = .illegalClause (if statement.sortKeys = [] then .limit else .sort) statement.kind := by
  cases hfault with
  | rowCount hlimits hbefore hrequested =>
      have hcount := hpos _ (hlimits ▸ List.mem_append_right _ List.mem_cons_self)
      omega
  | sortKey hlimits hkind hkeys => rw [if_neg hkeys]
  | limit hlimits hkind hkeys hsome => rw [if_pos hkeys]

/--
With positive row counts a statement is built as its clauses are in any order:
with the same text, or with an error about the same kind of statement, which
names a sort key if there is one and else a limit. Row counts that are not
positive are told before anything else, the first of them.
-/
theorem buildNamed_agrees_with_interleavings :
    ((∀ requested ∈ statement.limits, 0 < requested.toInt) →
      ∃ rows, Counted statement.limits rows ∧
        ∀ clauses, Interleaving clauses statement.filters statement.sortKeys rows →
          (∀ sql, statement.buildNamed = .ok sql ↔
            SqlStatement.build statement.head clauses = .ok sql) ∧
          ∀ error, statement.buildNamed = .error error →
            error.name = statement.name ∧
            error.cause = .illegalClause (if statement.sortKeys = [] then .limit else .sort)
              statement.head.kind ∧
            ∃ offender, SqlStatement.build statement.head clauses =
              .error (.illegalClause offender statement.head.kind)) ∧
    ((∃ requested ∈ statement.limits, requested.toInt ≤ 0) →
      ∃ requested, FirstFailing (fun count => 0 < count.toInt) statement.limits requested ∧
        statement.buildNamed = .error ⟨statement.name, .invalidLimit requested⟩) := by
  constructor
  · intro hpos
    obtain ⟨rows, hrows⟩ := (exists_counted_iff _).mpr hpos
    refine ⟨rows, hrows, fun clauses hclauses => ?_⟩
    have hfixed := statement.interleaving_clausesWith rows
    have hok : ∀ sql, statement.buildNamed = .ok sql ↔
        SqlStatement.build statement.head clauses = .ok sql := by
      intro sql
      rw [buildNamed_eq_ok_iff, statement.build_eq_of_counted hrows,
        hfixed.build_eq_ok_iff hclauses]
    refine ⟨hok, fun error herror => ?_⟩
    obtain ⟨hname, hfault⟩ := (statement.buildNamed_eq_error_iff error).mp herror
    refine ⟨hname.symm, ?_, ?_⟩
    · rw [head_kind]
      exact statement.fault_eq_of_pos hfault hpos
    · cases hbuild : SqlStatement.build statement.head clauses with
      | ok sql =>
          rw [(hok sql).mpr hbuild] at herror
          cases herror
      | error cause =>
          obtain ⟨offender, -, rfl⟩ := (SqlStatement.build_eq_error_iff _ _ _).mp hbuild
          exact ⟨_, rfl⟩
  · intro hbad
    obtain ⟨count, hin, hcount⟩ := hbad
    cases hmade : statement.limits.mapM RowLimit.ofInt64 with
    | ok rows =>
        have hpos := (RowLimit.pos_of_mapM hmade).2 count hin
        omega
    | error cause =>
        have hfirst := (mapM_eq_error_iff _ _ _).mp hmade
        obtain ⟨before, requested, after, hsplit, hbefore, hrequested, rfl⟩ :=
          (statement.firstError_limits_iff cause).mp hfirst
        refine ⟨requested, ⟨before, after, hsplit, hbefore, by omega⟩, ?_⟩
        rw [buildNamed_eq_error_iff]
        exact ⟨rfl, .rowCount hsplit hbefore hrequested⟩

-- The fixed order tells the sort key, another order the limit before it.
example :
    NamedStatement.build
      { name := "bad", kind := .delete, table := "t"
        sortKeys := [⟨"a", .ascending⟩], limits := [1] } = .error (.illegalClause .sort .delete) ∧
    SqlStatement.build (.delete ⟨"t"⟩) [.limit ⟨1, by decide, by decide⟩, .sort ⟨"a", .ascending⟩] =
      .error (.illegalClause .limit .delete) := by
  decide +kernel

end NamedStatement

end SqlStatement
