import Mathlib.Data.List.Forall2
import SqlStatement.Build

/-! # Heads among clauses

A list of parts is read as two lists, its heads and its clauses. When there is
one head, assembling the parts is building with that head and those clauses, so
that the place of the head does not count; any other number of heads is told
before a clause is looked at.
-/

namespace SqlStatement

/-- A list of parts taken apart: its heads and its clauses, each in their order. -/
inductive Parted : List Part → List Head → List Clause → Prop
  | nil : Parted [] [] []
  | head {parts heads clauses} (opening : Head) (rest : Parted parts heads clauses) :
      Parted (.head opening :: parts) (opening :: heads) clauses
  | clause {parts heads clauses} (added : Clause) (rest : Parted parts heads clauses) :
      Parted (.clause added :: parts) heads (added :: clauses)

namespace Parted

variable {parts : List Part} {heads : List Head} {clauses : List Clause}

theorem of_parts (parts : List Part) :
    Parted parts (parts.filterMap Part.head?) (parts.filterMap Part.clause?) := by
  induction parts with
  | nil => exact .nil
  | cons part rest ih =>
      cases part with
      | head opening => exact .head opening ih
      | clause added => exact .clause added ih

/-- The two collections that assembling makes. -/
theorem collected (h : Parted parts heads clauses) :
    parts.filterMap Part.head? = heads ∧ parts.filterMap Part.clause? = clauses := by
  induction h with
  | nil => exact ⟨rfl, rfl⟩
  | head opening rest ih =>
      obtain ⟨hheads, hclauses⟩ := ih
      exact ⟨congrArg (opening :: ·) hheads, hclauses⟩
  | clause added rest ih =>
      obtain ⟨hheads, hclauses⟩ := ih
      exact ⟨hheads, congrArg (added :: ·) hclauses⟩

theorem of_clauses (clauses : List Clause) : Parted (clauses.map .clause) [] clauses := by
  induction clauses with
  | nil => exact .nil
  | cons added rest ih => exact .clause added ih

/-- A head may be put anywhere among clauses. -/
theorem of_head_between (head : Head) (before after : List Clause) :
    Parted (before.map .clause ++ .head head :: after.map .clause) [head] (before ++ after) := by
  induction before with
  | nil => exact .head head (of_clauses after)
  | cons added rest ih => exact .clause added ih

theorem assemble_eq_build {head : Head} (h : Parted parts [head] clauses) :
    assemble parts = build head clauses := by
  obtain ⟨hheads, hclauses⟩ := h.collected
  simp only [assemble, hheads, hclauses]

theorem assemble_eq_headCount (h : Parted parts heads clauses) (hcount : heads.length ≠ 1) :
    assemble parts = .error (.headCount heads.length) := by
  have hheads := h.collected.1
  unfold assemble
  rw [hheads]
  split
  · exact absurd rfl hcount
  · rfl

end Parted

namespace Part.Source

/-- What is written stands for a part: for itself, or for the clause that holds it. -/
inductive Stands : Source → Part → Prop
  | part (given : Part) : Stands (.part given) given
  | head (opening : Head) : Stands (.head opening) (.head opening)
  | clause (added : Clause) : Stands (.clause added) (.clause added)
  | filter (condition : String) : Stands (.filter condition) (.clause (.filter condition))
  | sort (key : SortKey) : Stands (.sort key) (.clause (.sort key))
  | limit (rows : RowLimit) : Stands (.limit rows) (.clause (.limit rows))

theorem Stands.toPart_eq {source : Source} {part : Part} (h : Stands source part) :
    source.toPart = part := by
  cases h <;> rfl

theorem map_toPart_of_stands {sources : List Source} {parts : List Part}
    (h : List.Forall₂ Stands sources parts) : sources.map toPart = parts := by
  induction h with
  | nil => rfl
  | cons hfirst hrest ih => rw [List.map_cons, hfirst.toPart_eq, ih]

end Part.Source

/--
Every list of parts has its heads and its clauses. With one head, at whatever
place, it is assembled as that head and those clauses are built; with none or
several the error tells how many, whatever the clauses are. What is written for
the parts makes no difference.
-/
theorem assemble_builds_or_counts_heads (parts : List Part) :
    ∃ heads clauses, Parted parts heads clauses ∧
      (∀ otherHeads otherClauses, Parted parts otherHeads otherClauses →
        otherHeads = heads ∧ otherClauses = clauses) ∧
      (∀ head, heads = [head] →
        assemble parts = build head clauses ∧
        ∀ before after, before ++ after = clauses →
          assemble (before.map .clause ++ .head head :: after.map .clause) = assemble parts) ∧
      (heads.length ≠ 1 → assemble parts = .error (.headCount heads.length)) ∧
      (∀ sources, List.Forall₂ Part.Source.Stands sources parts →
        declare sources = assemble parts) := by
  have hparted := Parted.of_parts parts
  refine ⟨_, _, hparted, ?_, ?_, hparted.assemble_eq_headCount, ?_⟩
  · intro otherHeads otherClauses hother
    obtain ⟨hheads, hclauses⟩ := hother.collected
    exact ⟨hheads.symm, hclauses.symm⟩
  · intro head hone
    rw [hone] at hparted
    have hbuild := hparted.assemble_eq_build
    refine ⟨hbuild, fun before after hclauses => ?_⟩
    rw [(Parted.of_head_between head before after).assemble_eq_build, hbuild, hclauses]
  · intro sources hsources
    unfold declare
    rw [Part.Source.map_toPart_of_stands hsources]

end SqlStatement
