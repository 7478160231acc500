/-! # Texts on lines

Texts written one behind the other, each with a line feed at its end, are cut into
the lines of each text. Every line feed inside a text makes a line more, so that
there are as many lines as texts exactly when there is no such line feed, and then
the texts are the lines.
-/

namespace SqlStatement

/-- The pieces of a text between line feeds. -/
def linesOf (text : String) : List String :=
  (text.toList.splitOn '\n').map String.ofList

theorem linesOf_of_not_mem {text : String} (h : '\n' ∉ text.toList) : linesOf text = [text] := by
  rw [linesOf, List.splitOn_eq_singleton h, List.map_singleton, String.ofList_toList]

theorem length_linesOf (text : String) :
    (linesOf text).length = 1 + text.toList.count '\n' := by
  rw [linesOf, List.length_map]
  induction text.toList with
  | nil => rfl
  | cons c rest ih =>
      rw [List.splitOn_cons_eq_if_modifyHead, List.count_cons]
      by_cases hc : (c == '\n') = true
      · rw [if_pos hc, if_pos hc, List.length_cons, ih, Nat.add_assoc]
      · rw [if_neg hc, if_neg hc, List.length_modifyHead, ih, Nat.add_zero]

theorem linesOf_append_newline (text rest : String) :
    linesOf (text ++ "\n" ++ rest) = linesOf text ++ linesOf rest := by
  have hfeed : (text ++ "\n" ++ rest).toList = text.toList ++ '\n' :: rest.toList := by
    simp
  rw [linesOf, hfeed, List.splitOn_append_cons_self, List.map_append]
  rfl

/-- Rows, each with a line feed at its end, are cut into the lines of each row. -/
theorem linesOf_join (rows : List String) :
    linesOf (String.join (rows.map (· ++ "\n"))) = rows.flatMap linesOf ++ [""] := by
  induction rows with
  | nil => rfl
  | cons row rest ih =>
      rw [List.map_cons, String.join_cons, linesOf_append_newline, ih, List.flatMap_cons,
        List.append_assoc]

theorem join_newline_ended {rows : List String} (hsome : rows ≠ []) :
    ∃ before, String.join (rows.map (· ++ "\n")) = before ++ "\n" := by
  induction rows with
  | nil => exact absurd rfl hsome
  | cons row rest ih =>
      rw [List.map_cons, String.join_cons]
      by_cases hrest : rest = []
      · exact ⟨row, by simp [hrest]⟩
      · obtain ⟨before, hbefore⟩ := ih hrest
        exact ⟨row ++ "\n" ++ before, by simp [hbefore, String.append_assoc]⟩

theorem flatMap_linesOf_of_not_mem {rows : List String} (h : ∀ row ∈ rows, '\n' ∉ row.toList) :
    rows.flatMap linesOf = rows := by
  induction rows with
  | nil => rfl
  | cons row rest ih =>
      obtain ⟨hrow, hrest⟩ := List.forall_mem_cons.mp h
      rw [List.flatMap_cons, linesOf_of_not_mem hrow, ih hrest]
      rfl

theorem length_flatMap_linesOf (rows : List String) :
    (rows.flatMap linesOf).length = rows.length + (String.join rows).toList.count '\n' := by
  induction rows with
  | nil => rfl
  | cons row rest ih =>
      rw [List.flatMap_cons, List.length_append, ih, length_linesOf, List.length_cons,
        String.join_cons, String.toList_append, List.count_append]
      omega

theorem length_flatMap_linesOf_eq_iff (rows : List String) :
    (rows.flatMap linesOf).length = rows.length ↔ ∀ row ∈ rows, '\n' ∉ row.toList := by
  rw [length_flatMap_linesOf, Nat.add_eq_left, List.count_eq_zero]
  simp

theorem flatMap_linesOf_eq_iff (rows : List String) :
    rows.flatMap linesOf = rows ↔ ∀ row ∈ rows, '\n' ∉ row.toList := by
  constructor
  · intro hsame
    exact (length_flatMap_linesOf_eq_iff rows).mp (congrArg List.length hsame)
  · exact flatMap_linesOf_of_not_mem

end SqlStatement
