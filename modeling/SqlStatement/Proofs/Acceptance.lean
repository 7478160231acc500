import Mathlib.Data.List.Nodup
import SqlStatement.Config.Check

/-! # Accepted configurations

What it comes to when no rule is broken: a condition on each statement alone, and
names that are all different. Columns and assignments stand only where the
statement makes use of them.
-/

namespace SqlStatement

theorem Text.isBlankText_eq_false_iff (s : String) :
    isBlankText s = false ↔ ∃ c ∈ s.toList, isBlank c = false := by
  simp [isBlankText]

/-- A rule is kept, and so are those behind it. -/
theorem ite_some_eq_none_iff {α : Type} {p : Prop} [Decidable p] {error : α} {rest : Option α} :
    (if p then some error else rest) = none ↔ ¬ p ∧ rest = none := by
  by_cases hp : p <;> simp [hp]

namespace NamedStatement

structure Accepted (statement : NamedStatement) : Prop where
  name : ∃ c ∈ statement.name.toList, Text.isBlank c = false
  table : ∃ c ∈ statement.table.toList, Text.isBlank c = false
  columns : statement.columns ≠ none → statement.kind = .select
  someColumn : statement.columns ≠ some []
  assignments : statement.assignments ≠ [] ↔ statement.kind = .update

theorem broken?_eq_none_iff (statement : NamedStatement) :
    statement.broken? = none ↔ statement.Accepted := by
  simp only [broken?, ite_some_eq_none_iff, Bool.not_eq_true, Text.isBlankText_eq_false_iff,
    not_and, not_not, Option.isSome_iff_ne_none, and_true]
  constructor
  · intro h
    obtain ⟨hname, htable, hcolumns, hsome, hupdate, hstray⟩ := h
    exact ⟨hname, htable, hcolumns, hsome, not_imp_comm.mp hstray, hupdate⟩
  · intro h
    exact ⟨h.name, h.table, h.columns, h.someColumn, h.assignments.mpr,
      not_imp_comm.mp h.assignments.mp⟩

theorem Accepted.columns_eq_none {statement : NamedStatement} (h : statement.Accepted)
    (hkind : statement.kind ≠ .select) : statement.columns = none := by
  by_contra hsome
  exact hkind (h.columns hsome)

theorem Accepted.assignments_eq_nil {statement : NamedStatement} (h : statement.Accepted)
    (hkind : statement.kind ≠ .update) : statement.assignments = [] := by
  by_contra hsome
  exact hkind (h.assignments.mp hsome)

end NamedStatement

theorem brokenFrom?_cons (seen : List String) (statement : NamedStatement)
    (rest : List NamedStatement) :
    brokenFrom? seen (statement :: rest) =
      (if statement.name ∈ seen then some (.duplicateName statement.name)
        else statement.broken?).or (brokenFrom? (statement.name :: seen) rest) := by
  rw [brokenFrom?]
  by_cases hname : statement.name ∈ seen
  · simp [hname]
  · rw [if_neg hname, if_neg hname]
    cases statement.broken? <;> rfl

theorem brokenFrom?_eq_none_iff (seen : List String) (statements : List NamedStatement) :
    brokenFrom? seen statements = none ↔
      (∀ statement ∈ statements, statement.name ∉ seen) ∧
        (statements.map NamedStatement.name).Nodup ∧
        ∀ statement ∈ statements, statement.Accepted := by
  induction statements generalizing seen with
  | nil => simp [brokenFrom?]
  | cons statement rest ih =>
      rw [brokenFrom?_cons, Option.or_eq_none_iff, ite_some_eq_none_iff,
        NamedStatement.broken?_eq_none_iff, ih, List.forall_mem_cons, List.forall_mem_cons,
        List.map_cons, List.nodup_cons]
      -- The name joins the names seen, so that no later one may repeat it.
      constructor
      · intro h
        obtain ⟨⟨hseen, haccepted⟩, hfresh, hnodup, hrest⟩ := h
        refine ⟨⟨hseen, fun other hother => ?_⟩, ⟨fun hname => ?_, hnodup⟩, haccepted, hrest⟩
        · exact fun hin => hfresh other hother (List.mem_cons_of_mem _ hin)
        · obtain ⟨other, hother, hsame⟩ := List.mem_map.mp hname
          exact hfresh other hother (hsame ▸ List.mem_cons_self)
      · intro h
        obtain ⟨⟨hseen, hfresh⟩, ⟨hnew, hnodup⟩, haccepted, hrest⟩ := h
        refine ⟨⟨hseen, haccepted⟩, fun other hother hname => ?_, hnodup, hrest⟩
        rcases List.mem_cons.mp hname with hsame | hin
        · exact hnew (hsame ▸ List.mem_map_of_mem hother)
        · exact hfresh other hother hin

namespace Config

/-- A configuration that breaks no rule. -/
structure Accepted (config : Config) : Prop where
  version : config.version = supportedVersion
  names : (config.statements.map NamedStatement.name).Nodup
  statements : ∀ statement ∈ config.statements, statement.Accepted

theorem broken?_eq_none_iff (config : Config) : config.broken? = none ↔ config.Accepted := by
  unfold broken?
  by_cases hversion : config.version = supportedVersion
  · rw [if_neg (not_not.mpr hversion), brokenFrom?_eq_none_iff]
    constructor
    · intro h
      obtain ⟨-, hnames, hstatements⟩ := h
      exact ⟨hversion, hnames, hstatements⟩
    · intro h
      exact ⟨fun _ _ => List.not_mem_nil, h.names, h.statements⟩
  · rw [if_pos hversion]
    constructor
    · intro h
      cases h
    · intro h
      exact absurd h.version hversion

end Config

end SqlStatement
