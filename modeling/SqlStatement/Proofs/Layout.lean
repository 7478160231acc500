import SqlStatement.Build
import SqlStatement.Proofs.Permission

/-! # The layout of a statement

`layout` is the form of a statement as one formula over three lists: the
conditions, the sort keys and the row limits. An `Interleaving` relates a list
of clauses to them, whatever their order among each other. The main statement
says that a build answers with this text exactly when every clause is admitted,
and with the first clause that is not admitted otherwise.
-/

namespace SqlStatement

/-! ## Clauses by kind -/

/-- A list of clauses mixed from conditions, sort keys and row limits, each kind in its order. -/
inductive Interleaving : List Clause → List String → List SortKey → List RowLimit → Prop
  | nil : Interleaving [] [] [] []
  | filter {clauses conditions keys limits} (condition : String)
      (rest : Interleaving clauses conditions keys limits) :
      Interleaving (.filter condition :: clauses) (condition :: conditions) keys limits
  | sort {clauses conditions keys limits} (key : SortKey)
      (rest : Interleaving clauses conditions keys limits) :
      Interleaving (.sort key :: clauses) conditions (key :: keys) limits
  | limit {clauses conditions keys limits} (rows : RowLimit)
      (rest : Interleaving clauses conditions keys limits) :
      Interleaving (.limit rows :: clauses) conditions keys (rows :: limits)

/-- Every list of clauses is the interleaving of its three parts. -/
theorem Interleaving.of_clauses (clauses : List Clause) :
    Interleaving clauses (ClauseSet.mk clauses).filters (ClauseSet.mk clauses).sortKeys
      (ClauseSet.mk clauses).limits := by
  induction clauses with
  | nil => exact .nil
  | cons clause rest ih =>
      cases clause with
      | filter condition => exact .filter condition ih
      | sort key => exact .sort key ih
      | limit rows => exact .limit rows ih

/-- An interleaving determines its parts. -/
theorem Interleaving.parts {clauses : List Clause} {conditions : List String}
    {keys : List SortKey} {limits : List RowLimit}
    (h : Interleaving clauses conditions keys limits) :
    (ClauseSet.mk clauses).filters = conditions ∧ (ClauseSet.mk clauses).sortKeys = keys ∧
      (ClauseSet.mk clauses).limits = limits := by
  induction h with
  | nil => exact ⟨rfl, rfl, rfl⟩
  | filter condition rest ih =>
      obtain ⟨hconditions, hkeys, hlimits⟩ := ih
      exact ⟨congrArg (condition :: ·) hconditions, hkeys, hlimits⟩
  | sort key rest ih =>
      obtain ⟨hconditions, hkeys, hlimits⟩ := ih
      exact ⟨hconditions, congrArg (key :: ·) hkeys, hlimits⟩
  | limit rows rest ih =>
      obtain ⟨hconditions, hkeys, hlimits⟩ := ih
      exact ⟨hconditions, hkeys, congrArg (rows :: ·) hlimits⟩

/-! ## Lists of items -/

/-- Items in a row, the first one behind the lead and every other one behind the separator. -/
def itemized (lead separator : String) : List String → String
  | [] => ""
  | item :: rest => lead ++ item ++ itemized separator separator rest

theorem intercalate_cons_eq_itemized (separator first : String) (rest : List String) :
    separator.intercalate (first :: rest) = first ++ itemized separator separator rest := by
  induction rest generalizing first with
  | nil => simp [itemized]
  | cons second rest ih =>
      rw [String.intercalate_cons_cons, ih second]
      simp [itemized, String.append_assoc]

theorem intercalate_eq_itemized (separator : String) (items : List String) :
    separator.intercalate items = itemized "" separator items := by
  cases items with
  | nil => simp [itemized]
  | cons first rest => simp [intercalate_cons_eq_itemized, itemized]

theorem segment_eq_itemized (lead separator : String) (items : List String) :
    segment lead separator items = itemized lead separator items := by
  cases items with
  | nil => rfl
  | cons first rest =>
      show lead ++ separator.intercalate (first :: rest) = _
      rw [intercalate_cons_eq_itemized]
      simp [itemized, String.append_assoc]

/-- A character that is not in the separators comes from an item. -/
theorem mem_itemized_iff {c : Char} {lead separator : String} (hlead : c ∉ lead.toList)
    (hseparator : c ∉ separator.toList) (items : List String) :
    c ∈ (itemized lead separator items).toList ↔ ∃ item ∈ items, c ∈ item.toList := by
  induction items generalizing lead with
  | nil => simp [itemized]
  | cons item rest ih =>
      rw [itemized, String.toList_append, String.toList_append, List.mem_append, List.mem_append,
        ih hseparator]
      simp [hlead]

/-! ## The form of a statement -/

def Head.opening : Head → String
  | .select none table => "SELECT " ++ "*" ++ " FROM " ++ table.name
  | .select (some columns) table =>
      "SELECT " ++ itemized "" ", " columns ++ " FROM " ++ table.name
  | .update table assignments =>
      "UPDATE FROM " ++ table.name ++ " SET " ++ itemized "" ", " assignments
  | .delete table => "DELETE FROM " ++ table.name

theorem Head.sql_eq_opening (head : Head) : head.sql = head.opening := by
  cases head with
  | select columns table =>
      cases columns with
      | none => rfl
      | some columns =>
          show "SELECT " ++ ", ".intercalate columns ++ " FROM " ++ table.name = _
          rw [intercalate_eq_itemized]
          rfl
  | update table assignments =>
      show "UPDATE FROM " ++ table.name ++ " SET " ++ ", ".intercalate assignments = _
      rw [intercalate_eq_itemized]
      rfl
  | delete table => rfl

def SortKey.entry (key : SortKey) : String :=
  if key.direction = .descending then key.column ++ " DESC" else key.column

theorem SortKey.sql_eq_entry (key : SortKey) : key.sql = key.entry := by
  obtain ⟨column, direction⟩ := key
  cases direction <;> simp [sql, entry]

/-- A statement: its head, one segment for each kind of clause, and a semicolon. -/
def layout (head : Head) (conditions : List String) (keys : List SortKey)
    (limits : List RowLimit) : String :=
  head.opening ++ itemized " WHERE " " AND " conditions
    ++ itemized " ORDER BY " ", " (keys.map SortKey.entry)
    ++ itemized " LIMIT " ", " (limits.map fun rows => toString rows.count) ++ ";"

/-- The text that belongs to a head and clauses. -/
def Written (head : Head) (clauses : List Clause) (text : String) : Prop :=
  ∃ conditions keys limits, Interleaving clauses conditions keys limits ∧
    text = layout head conditions keys limits

theorem render_text_eq_layout (head : Head) (set : ClauseSet) :
    (render head set).text = layout head set.filters set.sortKeys set.limits := by
  have hkeys : set.sortKeys.map SortKey.sql = set.sortKeys.map SortKey.entry := by
    simp [SortKey.sql_eq_entry]
  show head.sql ++ set.sql ++ ";" = _
  simp only [ClauseSet.sql, layout, head.sql_eq_opening, segment_eq_itemized, hkeys,
    String.append_assoc]

theorem written_iff_eq_render (head : Head) (clauses : List Clause) (text : String) :
    Written head clauses text ↔ text = (render head ⟨clauses⟩).text := by
  rw [render_text_eq_layout]
  constructor
  · intro h
    obtain ⟨conditions, keys, limits, hmixed, htext⟩ := h
    obtain ⟨hconditions, hkeys, hlimits⟩ := hmixed.parts
    rw [htext, hconditions, hkeys, hlimits]
  · intro htext
    exact ⟨_, _, _, Interleaving.of_clauses clauses, htext⟩

/-! ## What a build answers -/

theorem build_eq_ok_iff (head : Head) (clauses : List Clause) (sql : Sql) :
    build head clauses = .ok sql ↔
      head.kind.AdmitsAll clauses ∧ sql = render head ⟨clauses⟩ := by
  unfold build Head.validate
  cases hvalid : head.kind.validate clauses with
  | ok set =>
      obtain ⟨hadmits, rfl⟩ := (StatementKind.validate_eq_ok_iff _ _ _).mp hvalid
      simp [Except.map, hadmits, eq_comm]
  | error error =>
      have hrefused : ¬ head.kind.AdmitsAll clauses := by
        intro hadmits
        have hok := (StatementKind.validate_eq_ok_iff _ _ ⟨clauses⟩).mpr ⟨hadmits, rfl⟩
        rw [hvalid] at hok
        cases hok
      simp [Except.map, hrefused]

theorem build_eq_error_iff (head : Head) (clauses : List Clause) (error : BuildError) :
    build head clauses = .error error ↔
      ∃ offender, head.kind.FirstOffender clauses offender ∧
        error = .illegalClause offender.kind head.kind := by
  rw [← StatementKind.validate_eq_error_iff]
  unfold build Head.validate
  cases head.kind.validate clauses <;> simp [Except.map]

/--
A build succeeds exactly when the head admits every clause, and its text then has
the form of a statement; otherwise it names the first clause that is not admitted.
Writing alone gives the same form for every head and every set of clauses.
-/
theorem build_written_or_first_offender (head : Head) (clauses : List Clause) :
    ((∃ sql, build head clauses = .ok sql) ↔ head.kind.AdmitsAll clauses) ∧
    (∀ sql, build head clauses = .ok sql ↔
      head.kind.AdmitsAll clauses ∧ Written head clauses sql.text) ∧
    (∀ error, build head clauses = .error error ↔
      ∃ offender, head.kind.FirstOffender clauses offender ∧
        error = .illegalClause offender.kind head.kind) ∧
    (∀ sql, render head ⟨clauses⟩ = sql ↔ Written head clauses sql.text) := by
  have hrender : ∀ sql, render head ⟨clauses⟩ = sql ↔ Written head clauses sql.text := by
    intro sql
    rw [written_iff_eq_render]
    constructor
    · rintro rfl
      rfl
    · intro htext
      cases sql
      exact congrArg Sql.mk htext.symm
  refine ⟨?_, ?_, build_eq_error_iff head clauses, hrender⟩
  · constructor
    · intro h
      obtain ⟨sql, hbuild⟩ := h
      exact ((build_eq_ok_iff head clauses sql).mp hbuild).1
    · intro hadmits
      exact ⟨_, (build_eq_ok_iff head clauses _).mpr ⟨hadmits, rfl⟩⟩
  · intro sql
    rw [build_eq_ok_iff, ← hrender sql]
    exact and_congr_right fun _ => eq_comm

end SqlStatement
