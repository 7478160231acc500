import SqlStatement.Proofs.Layout

/-! # Sets of clauses that were validated

Validation keeps a list of clauses as it is, or refuses it because of one clause.
What it keeps is mixed from the three parts that the set gives back, and each part
is counted as its kind. Whether a list is accepted depends on the kinds in it alone,
so it does not matter in which order they stand and how often; and a list that goes
with an update or a deletion goes with every head.
-/

namespace SqlStatement

/-! ## The parts of a set -/

namespace ClauseSet

def ofKind (set : ClauseSet) (kind : ClauseKind) : List Clause :=
  set.toList.filter fun clause => clause.kind = kind

theorem countOf_eq_length (set : ClauseSet) (kind : ClauseKind) :
    set.countOf kind = (set.ofKind kind).length :=
  List.countP_eq_length_filter

end ClauseSet

namespace Interleaving

variable {clauses : List Clause} {conditions : List String} {keys : List SortKey}
  {limits : List RowLimit}

theorem ofKind_eq (h : Interleaving clauses conditions keys limits) :
    (ClauseSet.mk clauses).ofKind .filter = conditions.map .filter ∧
      (ClauseSet.mk clauses).ofKind .sort = keys.map .sort ∧
      (ClauseSet.mk clauses).ofKind .limit = limits.map .limit := by
  induction h with
  | nil => exact ⟨rfl, rfl, rfl⟩
  | filter condition rest ih =>
      obtain ⟨hconditions, hkeys, hlimits⟩ := ih
      exact ⟨congrArg (Clause.filter condition :: ·) hconditions, hkeys, hlimits⟩
  | sort key rest ih =>
      obtain ⟨hconditions, hkeys, hlimits⟩ := ih
      exact ⟨hconditions, congrArg (Clause.sort key :: ·) hkeys, hlimits⟩
  | limit rows rest ih =>
      obtain ⟨hconditions, hkeys, hlimits⟩ := ih
      exact ⟨hconditions, hkeys, congrArg (Clause.limit rows :: ·) hlimits⟩

theorem countOf_eq (h : Interleaving clauses conditions keys limits) :
    (ClauseSet.mk clauses).countOf .filter = conditions.length ∧
      (ClauseSet.mk clauses).countOf .sort = keys.length ∧
      (ClauseSet.mk clauses).countOf .limit = limits.length := by
  obtain ⟨hconditions, hkeys, hlimits⟩ := h.ofKind_eq
  simp only [ClauseSet.countOf_eq_length, hconditions, hkeys, hlimits, List.length_map, and_self]

theorem length_eq (h : Interleaving clauses conditions keys limits) :
    clauses.length = conditions.length + keys.length + limits.length := by
  induction h with
  | nil => rfl
  | filter condition rest ih | sort key rest ih | limit rows rest ih =>
      simp only [List.length_cons, ih]
      omega

end Interleaving

/-- The parts of a set: what it is mixed from, in the order of each kind, and counted so. -/
structure ClauseSet.Resolved (set : ClauseSet) : Prop where
  interleaving (conditions : List String) (keys : List SortKey) (limits : List RowLimit) :
    Interleaving set.toList conditions keys limits ↔
      set.filters = conditions ∧ set.sortKeys = keys ∧ set.limits = limits
  filters : set.filters.map .filter = set.ofKind .filter
  sortKeys : set.sortKeys.map .sort = set.ofKind .sort
  limits : set.limits.map .limit = set.ofKind .limit
  countOf_filter : set.countOf .filter = set.filters.length
  countOf_sort : set.countOf .sort = set.sortKeys.length
  countOf_limit : set.countOf .limit = set.limits.length
  length : set.countOf .filter + set.countOf .sort + set.countOf .limit = set.length

theorem ClauseSet.resolved (set : ClauseSet) : set.Resolved := by
  obtain ⟨clauses⟩ := set
  have hmixed := Interleaving.of_clauses clauses
  obtain ⟨hconditions, hkeys, hlimits⟩ := hmixed.ofKind_eq
  obtain ⟨hfilter, hsort, hlimit⟩ := hmixed.countOf_eq
  refine ⟨fun conditions keys limits => ⟨fun h => h.parts, ?_⟩, hconditions.symm, hkeys.symm,
    hlimits.symm, hfilter, hsort, hlimit, ?_⟩
  · rintro ⟨rfl, rfl, rfl⟩
    exact hmixed
  · rw [hfilter, hsort, hlimit]
    exact hmixed.length_eq.symm

/-! ## What is accepted -/

namespace StatementKind

variable {kind : StatementKind} {clauses others : List Clause}

theorem AdmitsAll.mono (h : kind.AdmitsAll clauses) (hothers : others ⊆ clauses) :
    kind.AdmitsAll others :=
  fun clause hclause => h clause (hothers hclause)

theorem admitsAll_append_iff :
    kind.AdmitsAll (clauses ++ others) ↔ kind.AdmitsAll clauses ∧ kind.AdmitsAll others :=
  List.forall_mem_append

/-- What is admitted for a statement that is no selection is admitted for all statements. -/
theorem AdmitsAll.of_ne_select (hkind : kind ≠ .select) (h : kind.AdmitsAll clauses)
    (other : StatementKind) : other.AdmitsAll clauses := by
  intro clause hclause
  have hadmits := h clause hclause
  cases clause with
  | filter condition => trivial
  | sort key => exact absurd hadmits hkind
  | limit rows => exact absurd hadmits hkind

/-- A clause that is not admitted, behind clauses that are, decides whatever follows it. -/
theorem firstOffender_append_cons (h : kind.AdmitsAll clauses) {offender : Clause}
    (hoffender : ¬ kind.Admits offender.kind) (after : List Clause) :
    kind.FirstOffender (clauses ++ offender :: after) offender :=
  ⟨clauses, after, rfl, h, hoffender⟩

end StatementKind

namespace Head

/-- The clauses are accepted behind the head. -/
def Accepts (head : Head) (clauses : List Clause) : Prop :=
  ∃ set, head.validate clauses = .ok set

theorem accepts_iff (head : Head) (clauses : List Clause) :
    head.Accepts clauses ↔ head.kind.AdmitsAll clauses := by
  simp only [Accepts, validate, StatementKind.validate_eq_ok_iff]
  exact ⟨fun ⟨_, h, _⟩ => h, fun h => ⟨_, h, rfl⟩⟩

theorem accepts_of_subset {head : Head} {clauses others : List Clause}
    (h : head.Accepts clauses) (hothers : others ⊆ clauses) : head.Accepts others :=
  (head.accepts_iff others).mpr (((head.accepts_iff clauses).mp h).mono hothers)

theorem accepts_iff_of_perm (head : Head) {clauses others : List Clause}
    (hperm : clauses.Perm others) : head.Accepts clauses ↔ head.Accepts others :=
  ⟨fun h => accepts_of_subset h hperm.symm.subset, fun h => accepts_of_subset h hperm.subset⟩

theorem accepts_append_iff (head : Head) (clauses others : List Clause) :
    head.Accepts (clauses ++ others) ↔ head.Accepts clauses ∧ head.Accepts others := by
  simp only [accepts_iff, StatementKind.admitsAll_append_iff]

theorem validate_eq_ok_of_ne_select {head : Head} (hkind : head.kind ≠ .select)
    {clauses : List Clause} {set : ClauseSet} (h : head.validate clauses = .ok set)
    (other : Head) : other.validate clauses = .ok set := by
  obtain ⟨hadmits, hset⟩ := (StatementKind.validate_eq_ok_iff _ _ _).mp h
  exact (StatementKind.validate_eq_ok_iff _ _ _).mpr ⟨hadmits.of_ne_select hkind other.kind, hset⟩

/--
Validation succeeds exactly when every clause is admitted, and the set then lists the
clauses as they were and resolves into its three parts. Being accepted is kept by other
orders, by sublists, and by lists put together; what an update or a deletion accepts
gives the same set behind every head. An error names the kind of the first clause that
is not admitted, and what follows that clause does not count.
-/
theorem validate_keeps_or_names_first (head : Head) (clauses : List Clause) :
    (head.Accepts clauses ↔ ∀ clause ∈ clauses, head.kind.Admits clause.kind) ∧
    (∀ set, head.validate clauses = .ok set → set.toList = clauses ∧ set.Resolved) ∧
    (∀ others, clauses.Perm others → (head.Accepts clauses ↔ head.Accepts others)) ∧
    (∀ others, others.Sublist clauses → head.Accepts clauses → head.Accepts others) ∧
    (∀ others, head.Accepts clauses → head.Accepts others → head.Accepts (clauses ++ others)) ∧
    (∀ set, head.kind ≠ .select → head.validate clauses = .ok set →
      ∀ other : Head, other.validate clauses = .ok set) ∧
    (∀ error, head.validate clauses = .error error ↔
      ∃ offender, head.kind.FirstOffender clauses offender ∧
        error = .illegalClause offender.kind head.kind) ∧
    (∀ offender, head.Accepts clauses → ¬ head.kind.Admits offender.kind → ∀ after,
      head.validate (clauses ++ offender :: after) =
        .error (.illegalClause offender.kind head.kind)) := by
  refine ⟨head.accepts_iff clauses, fun set h => ?_, fun others => head.accepts_iff_of_perm,
    fun others hsub h => accepts_of_subset h hsub.subset,
    fun others h hothers => (head.accepts_append_iff _ _).mpr ⟨h, hothers⟩,
    fun set hkind h => validate_eq_ok_of_ne_select hkind h,
    StatementKind.validate_eq_error_iff head.kind clauses, fun offender h hoffender after => ?_⟩
  · obtain ⟨-, rfl⟩ := (StatementKind.validate_eq_ok_iff _ _ _).mp h
    exact ⟨rfl, ClauseSet.resolved _⟩
  · have hadmits := (head.accepts_iff clauses).mp h
    exact (StatementKind.validate_eq_error_iff _ _ _).mpr
      ⟨offender, StatementKind.firstOffender_append_cons hadmits hoffender after, rfl⟩

-- The limit is told, although the sort key behind it does not belong there either.
example :
    (Head.delete ⟨"t"⟩).validate
        [.filter "a", .limit ⟨1, by decide, by decide⟩, .sort ⟨"a", .ascending⟩] =
      .error (.illegalClause .limit .delete) := by
  decide +kernel

end Head

end SqlStatement
