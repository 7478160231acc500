import Mathlib.Data.List.DropRight
import SqlStatement.Text.Pieces

/-! # Items of a list behind commas

An item is not empty, holds no comma, and has no blank at either end. These are
all the texts that a list can have as items: each item that is found is of this
form, and each text of this form is, as a list, its own one item.
-/

namespace SqlStatement

namespace Text

/-! ## Pieces -/

theorem pieces_eq_splitOn (separator : Char) (s : List Char) :
    pieces separator s = s.splitOn separator := by
  induction s with
  | nil => rfl
  | cons c rest ih =>
      rw [pieces, List.splitOn_cons_eq_if_modifyHead, ih]
      by_cases hc : c = separator
      · rw [if_pos hc, if_pos (beq_iff_eq.mpr hc)]
      · rw [if_neg hc, if_neg (mt beq_iff_eq.mp hc)]
        cases hrest : rest.splitOn separator with
        | nil => exact absurd hrest (List.splitOn_ne_nil _ _)
        | cons piece others => rfl

theorem not_mem_of_mem_pieces {separator : Char} {s piece : List Char}
    (hpiece : piece ∈ pieces separator s) : separator ∉ piece := by
  induction s generalizing piece with
  | nil =>
      rw [pieces, List.mem_singleton] at hpiece
      exact hpiece ▸ List.not_mem_nil
  | cons c rest ih =>
      rw [pieces] at hpiece
      by_cases hc : c = separator
      · rw [if_pos hc, List.mem_cons] at hpiece
        rcases hpiece with rfl | hrest
        · exact List.not_mem_nil
        · exact ih hrest
      · rw [if_neg hc] at hpiece
        cases hsplit : pieces separator rest with
        | nil => exact absurd hsplit (pieces_ne_nil _ _)
        | cons first others =>
            -- The character goes to the front of the first piece; the others stay as they are.
            rw [hsplit] at ih hpiece
            rcases List.mem_cons.mp hpiece with rfl | hrest
            · simp [Ne.symm hc, ih List.mem_cons_self]
            · exact ih (List.mem_cons_of_mem _ hrest)

/-! ## Trimmed texts -/

structure Trimmed (s : List Char) : Prop where
  front : ∀ c, s.head? = some c → isBlank c = false
  back : ∀ c, s.getLast? = some c → isBlank c = false

theorem trim_eq_rdropWhile (s : List Char) :
    trim s = (s.dropWhile isBlank).rdropWhile isBlank := rfl

theorem mem_of_mem_trim {s : List Char} {c : Char} (hc : c ∈ trim s) : c ∈ s :=
  (List.dropWhile_sublist isBlank).subset ((List.rdropWhile_prefix isBlank _).subset hc)

theorem trimmed_trim (s : List Char) : Trimmed (trim s) := by
  rw [trim_eq_rdropWhile]
  constructor
  · intro c hc
    obtain ⟨rest, hrest⟩ := List.rdropWhile_prefix isBlank (s.dropWhile isBlank)
    have hfront : (s.dropWhile isBlank).head? = some c := by
      rw [← hrest, List.head?_append, hc]
      rfl
    have hstop := List.head?_dropWhile_not isBlank s
    rw [hfront] at hstop
    exact hstop
  · intro c hc
    rw [← List.getLast_of_getLast?_eq_some hc]
    simpa only [Bool.not_eq_true] using List.rdropWhile_last_not isBlank (s.dropWhile isBlank) _

theorem trim_of_trimmed {s : List Char} (h : Trimmed s) : trim s = s := by
  have hfront : s.dropWhile isBlank = s := by
    cases s with
    | nil => rfl
    | cons c rest => rw [List.dropWhile_cons, if_neg (by simp [h.front c rfl])]
  rw [trim_eq_rdropWhile, hfront, List.rdropWhile_eq_self_iff]
  intro hsome
  simp [h.back _ (List.getLast?_eq_some_getLast hsome)]

/-! ## Items -/

/-- A text that can be an item. -/
structure IsItem (s : String) : Prop where
  nonempty : s ≠ ""
  comma : ',' ∉ s.toList
  trimmed : Trimmed s.toList

theorem mem_items_iff (s item : String) :
    item ∈ items s ↔
      ∃ piece ∈ pieces ',' s.toList, trim piece ≠ [] ∧ String.ofList (trim piece) = item := by
  simp only [items, List.mem_filterMap, List.mem_map, exists_exists_and_eq_and]
  apply exists_congr
  intro piece
  cases trim piece <;> simp

theorem isItem_of_mem_items {s item : String} (hitem : item ∈ items s) : IsItem item := by
  obtain ⟨piece, hpiece, hsome, rfl⟩ := (mem_items_iff s item).mp hitem
  refine ⟨?_, ?_, ?_⟩
  · simpa using hsome
  · rw [String.toList_ofList]
    exact fun hcomma => not_mem_of_mem_pieces hpiece (mem_of_mem_trim hcomma)
  · rw [String.toList_ofList]
    exact trimmed_trim piece

theorem items_of_isItem {s : String} (h : IsItem s) : items s = [s] := by
  rw [items, pieces_eq_splitOn, List.splitOn_eq_singleton h.comma, List.map_singleton,
    trim_of_trimmed h.trimmed]
  simp [h.nonempty]

/-! ## What the items keep -/

/-- A character that is no part of the writing of a list. -/
def isMark (c : Char) : Bool :=
  !isBlank c && c != ','

theorem filter_trimStart (s : List Char) : (trimStart s).filter isMark = s.filter isMark := by
  induction s with
  | nil => rfl
  | cons c rest ih =>
      unfold trimStart at ih ⊢
      by_cases hc : isBlank c
      · rw [List.dropWhile_cons_of_pos hc, ih, List.filter_cons_of_neg (by simp [isMark, hc])]
      · rw [List.dropWhile_cons_of_neg hc]

theorem filter_trim (s : List Char) : (trim s).filter isMark = s.filter isMark := by
  rw [trim, List.filter_reverse, filter_trimStart, List.filter_reverse, List.reverse_reverse,
    filter_trimStart]

theorem flatMap_pieces (s : List Char) :
    (pieces ',' s).flatMap (List.filter isMark) = s.filter isMark := by
  induction s with
  | nil => rfl
  | cons c rest ih =>
      rw [pieces]
      by_cases hc : c = ','
      · rw [if_pos hc, List.flatMap_cons, ih, List.filter_cons_of_neg (by simp [isMark, hc])]
        rfl
      · rw [if_neg hc]
        cases hsplit : pieces ',' rest with
        | nil => exact absurd hsplit (pieces_ne_nil _ _)
        | cons first others =>
            rw [hsplit, List.flatMap_cons] at ih
            rw [consPiece, List.flatMap_cons, List.filter_cons, List.filter_cons, ← ih]
            split <;> rfl

/-- No mark is lost, and their order stays. -/
theorem flatMap_items (s : String) :
    (items s).flatMap (fun item => item.toList.filter isMark) = s.toList.filter isMark := by
  rw [← flatMap_pieces, items]
  induction pieces ',' s.toList with
  | nil => rfl
  | cons piece rest ih =>
      rw [List.map_cons, List.flatMap_cons, ← filter_trim, ← ih]
      cases trim piece with
      | nil => rfl
      | cons c others =>
          rw [List.filterMap_cons]
          simp

end Text

end SqlStatement
