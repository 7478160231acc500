import SqlStatement.Proofs.Acceptance
import SqlStatement.Proofs.ClauseOrder

/-! # Statements from their parts

A statement of a configuration is used through its head and its clauses. Where it
is accepted and its row counts are sound, it can be restored from them and its
name: columns and assignments that the head leaves out are not there, and the
clauses keep every other field.
-/

namespace SqlStatement

namespace Head

def columns? : Head → Option (List String)
  | select columns _ => columns
  | update .. => none
  | delete _ => none

def assignments : Head → List String
  | update _ assignments => assignments
  | select .. => []
  | delete _ => []

end Head

/-- The row counts that limits were made from. -/
theorem Counted.map_ofNat {requested : List Int64} {limits : List RowLimit}
    (h : Counted requested limits) :
    (limits.map fun rows => Int64.ofNat rows.count) = requested := by
  have hinjective : Function.Injective Int64.toInt := fun _ _ => Int64.toInt_inj.mp
  apply hinjective.list_map
  rw [← h, List.map_map]
  apply List.map_congr_left
  intro rows _
  exact rows.toInt_ofNat_count

namespace NamedStatement

/-- The statement that has a name, a head and clauses. -/
def restored (name : String) (head : Head) (clauses : List Clause) : NamedStatement where
  name := name
  kind := head.kind
  table := head.table.name
  columns := head.columns?
  assignments := head.assignments
  filters := (ClauseSet.mk clauses).filters
  sortKeys := (ClauseSet.mk clauses).sortKeys
  limits := (ClauseSet.mk clauses).limits.map fun rows => Int64.ofNat rows.count

variable {statement other : NamedStatement} {clauses others : List Clause}

theorem table_head (statement : NamedStatement) : statement.head.table.name = statement.table := by
  unfold head
  cases statement.kind <;> rfl

theorem columns?_head (h : statement.Accepted) : statement.head.columns? = statement.columns := by
  unfold head
  cases hkind : statement.kind with
  | select => rfl
  | update => exact (h.columns_eq_none (by simp [hkind])).symm
  | delete => exact (h.columns_eq_none (by simp [hkind])).symm

theorem assignments_head (h : statement.Accepted) :
    statement.head.assignments = statement.assignments := by
  unfold head
  cases hkind : statement.kind with
  | select => exact (h.assignments_eq_nil (by simp [hkind])).symm
  | update => rfl
  | delete => exact (h.assignments_eq_nil (by simp [hkind])).symm

theorem exists_counted_of_clauses (h : statement.clauses = .ok clauses) :
    ∃ rows, Counted statement.limits rows ∧ clauses = statement.clausesWith rows := by
  rw [clauses_eq] at h
  cases hrows : statement.limits.mapM RowLimit.ofInt64 with
  | error error =>
      rw [hrows] at h
      cases h
  | ok rows =>
      rw [hrows] at h
      exact ⟨rows, (counted_iff_mapM _ _).mpr hrows, (Except.ok.inj h).symm⟩

theorem restored_eq_self (haccepted : statement.Accepted) (h : statement.clauses = .ok clauses) :
    restored statement.name statement.head clauses = statement := by
  obtain ⟨rows, hrows, rfl⟩ := exists_counted_of_clauses h
  obtain ⟨hfilters, hkeys, hlimits⟩ := (statement.interleaving_clausesWith rows).parts
  rw [restored, head_kind, table_head, columns?_head haccepted, assignments_head haccepted,
    hfilters, hkeys, hlimits, hrows.map_ofNat]

/--
Accepted statements with sound row counts are the same if they have the same
name, the same head and the same clauses: no field of theirs is lost on the way.
-/
theorem eq_iff_name_head_clauses (hstatement : statement.broken? = none)
    (hother : other.broken? = none) (hclauses : statement.clauses = .ok clauses)
    (hothers : other.clauses = .ok others) :
    statement = other ↔
      statement.name = other.name ∧ statement.head = other.head ∧ clauses = others := by
  have hrestored := restored_eq_self ((broken?_eq_none_iff _).mp hstatement) hclauses
  have hrestored' := restored_eq_self ((broken?_eq_none_iff _).mp hother) hothers
  constructor
  · rintro rfl
    exact ⟨rfl, rfl, Except.ok.inj (hclauses.symm.trans hothers)⟩
  · intro h
    obtain ⟨hname, hhead, rfl⟩ := h
    rw [← hrestored, ← hrestored', hname, hhead]

def topRows (requested : Int64) : NamedStatement where
  name := "top"
  kind := .select
  table := "photos"
  columns := some ["id"]
  filters := ["id > 1"]
  sortKeys := [⟨"id", .descending⟩]
  limits := [requested]

def topClauses (rows : RowLimit) : List Clause :=
  [.filter "id > 1", .sort ⟨"id", .descending⟩, .limit rows]

theorem topRows_five_eq_seven_iff :
    (topRows 5).broken? = none ∧ (topRows 7).broken? = none ∧
    (topRows 5).clauses = .ok (topClauses ⟨5, by decide, by decide⟩) ∧
    (topRows 7).clauses = .ok (topClauses ⟨7, by decide, by decide⟩) ∧
    (topRows 5 = topRows 7 ↔
      (topRows 5).name = (topRows 7).name ∧ (topRows 5).head = (topRows 7).head ∧
        topClauses ⟨5, by decide, by decide⟩ = topClauses ⟨7, by decide, by decide⟩) := by
  have hfive : (topRows 5).broken? = none := by decide +kernel
  have hseven : (topRows 7).broken? = none := by decide +kernel
  have hclauses : (topRows 5).clauses = .ok (topClauses ⟨5, by decide, by decide⟩) := by
    decide +kernel
  have hothers : (topRows 7).clauses = .ok (topClauses ⟨7, by decide, by decide⟩) := by
    decide +kernel
  exact ⟨hfive, hseven, hclauses, hothers,
    eq_iff_name_head_clauses hfive hseven hclauses hothers⟩

-- A deletion with assignments, which is refused, has the head of the same without them.
example :
    head { name := "a", kind := .delete, table := "t", assignments := ["x = 1"] } =
      head { name := "a", kind := .delete, table := "t" } := by
  decide +kernel

end NamedStatement

end SqlStatement
