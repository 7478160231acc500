import SqlStatement.Sql

/-! # The words of a text

Words are what single spaces separate, the empty ones included, so that a text is
known by its words. A keyword between spaces becomes words of its own; a comma
sticks to the word before it.
-/

namespace SqlStatement

/-- The words of a text, which single spaces separate. -/
def words (text : String) : List (List Char) :=
  text.toList.splitOn ' '

theorem words_ne_nil (text : String) : words text ≠ [] :=
  List.splitOn_ne_nil _ _

theorem words_injective {s t : String} (h : words s = words t) : s = t := by
  have hjoined := congrArg ([' '].intercalate ·) h
  simp only [words, List.intercalate_splitOn] at hjoined
  exact String.toList_inj.mp hjoined

theorem words_append_space (s t : String) : words (s ++ " " ++ t) = words s ++ words t := by
  have hspace : (s ++ " " ++ t).toList = s.toList ++ ' ' :: t.toList := by
    simp
  unfold words
  rw [hspace, List.splitOn_append_cons_self]

theorem words_append_keyword {lead keyword : String} (hlead : lead = " " ++ keyword ++ " ")
    (s t : String) : words (s ++ lead ++ t) = words s ++ words keyword ++ words t := by
  have htext : s ++ lead ++ t = s ++ " " ++ keyword ++ " " ++ t := by
    rw [hlead]
    simp only [String.append_assoc]
  rw [htext, words_append_space, words_append_space]

theorem splitOn_append_of_not_mem (sep : Char) (xs ys : List Char) (hys : sep ∉ ys) :
    ∃ init last, xs.splitOn sep = init ++ [last] ∧
      (xs ++ ys).splitOn sep = init ++ [last ++ ys] := by
  induction xs with
  | nil => exact ⟨[], [], rfl, List.splitOn_eq_singleton hys⟩
  | cons x xs ih =>
      obtain ⟨init, last, hxs, happend⟩ := ih
      rw [List.cons_append, List.splitOn_cons_eq_if_modifyHead,
        List.splitOn_cons_eq_if_modifyHead, hxs, happend]
      by_cases hx : (x == sep) = true
      · rw [if_pos hx, if_pos hx]
        exact ⟨[] :: init, last, rfl, rfl⟩
      · rw [if_neg hx, if_neg hx]
        cases init with
        | nil => exact ⟨[], x :: last, rfl, rfl⟩
        | cons first init => exact ⟨(x :: first) :: init, last, rfl, rfl⟩

theorem words_append_comma (text : String) :
    ∃ init last, words text = init ++ [last] ∧ words (text ++ ",") = init ++ [last ++ [',']] := by
  obtain ⟨init, last, htext, hcomma⟩ :=
    splitOn_append_of_not_mem ' ' text.toList [','] (by decide)
  exact ⟨init, last, htext, by simpa [words] using hcomma⟩

/-! ## Lists behind commas -/

theorem mem_words_commas {items : List String} {word : List Char}
    (hword : word ∈ words (", ".intercalate items)) :
    word = [] ∨ (∃ item ∈ items, word ∈ words item) ∨ ∃ stem, word = stem ++ [','] := by
  induction items with
  | nil => exact Or.inl (by simpa [words] using hword)
  | cons item rest ih =>
      cases rest with
      | nil => exact Or.inr (Or.inl ⟨item, by simp, by simpa using hword⟩)
      | cons second rest =>
          have hcomma : item ++ ", " = item ++ "," ++ " " := by
            rw [String.append_assoc]
            rfl
          rw [String.intercalate_cons_cons, hcomma, words_append_space, List.mem_append] at hword
          rcases hword with hfirst | hrest
          · obtain ⟨init, last, hitem, hended⟩ := words_append_comma item
            rw [hended, List.mem_append, List.mem_singleton] at hfirst
            rcases hfirst with hinit | hlast
            · exact Or.inr (Or.inl ⟨item, by simp, by simp [hitem, hinit]⟩)
            · exact Or.inr (Or.inr ⟨last, hlast⟩)
          · rcases ih hrest with hempty | ⟨found, hfound, hin⟩ | hstem
            · exact Or.inl hempty
            · exact Or.inr (Or.inl ⟨found, List.mem_cons_of_mem _ hfound, hin⟩)
            · exact Or.inr (Or.inr hstem)

theorem splitOn_commas (first : String) (rest : List String)
    (hfree : ∀ item ∈ first :: rest, ',' ∉ item.toList) :
    (", ".intercalate (first :: rest)).toList.splitOn ',' =
      first.toList :: rest.map fun item => ' ' :: item.toList := by
  induction rest generalizing first with
  | nil => simpa using List.splitOn_eq_singleton (hfree first (by simp))
  | cons second rest ih =>
      have htext : (", ".intercalate (first :: second :: rest)).toList =
          first.toList ++ ',' :: ' ' :: (", ".intercalate (second :: rest)).toList := by
        rw [String.intercalate_cons_cons]
        simp
      rw [htext, List.splitOn_append_cons_self_of_not_mem (hfree first (by simp)),
        List.splitOn_cons_eq_if_modifyHead,
        ih second fun item hitem => hfree item (List.mem_cons_of_mem _ hitem)]
      rfl

theorem commas_injective {items others : List String} (hitems : items ≠ []) (hothers : others ≠ [])
    (hfree : ∀ item ∈ items, ',' ∉ item.toList) (hfree' : ∀ item ∈ others, ',' ∉ item.toList)
    (h : ", ".intercalate items = ", ".intercalate others) : items = others := by
  cases items with
  | nil => exact absurd rfl hitems
  | cons first rest =>
      cases others with
      | nil => exact absurd rfl hothers
      | cons first' rest' =>
          have hsplit := congrArg (fun text => text.toList.splitOn ',') h
          simp only [splitOn_commas first rest hfree, splitOn_commas first' rest' hfree'] at hsplit
          obtain ⟨hfirst, hrest⟩ := List.cons.inj hsplit
          have hspaced : ∀ s t : String, ' ' :: s.toList = ' ' :: t.toList → s = t :=
            fun s t hst => String.toList_inj.mp (List.cons.inj hst).2
          rw [String.toList_inj.mp hfirst, (List.map_inj_right hspaced).mp hrest]

/-! ## Conditions behind `AND` -/

theorem words_conjunction (first : String) (rest : List String) :
    words (" AND ".intercalate (first :: rest)) =
      ["AND".toList].intercalate (words first :: rest.map words) := by
  induction rest generalizing first with
  | nil => simp
  | cons second rest ih =>
      have hmark : words "AND" = ["AND".toList] := rfl
      have hlead : " AND " = " " ++ "AND" ++ " " := rfl
      rw [String.intercalate_cons_cons, words_append_keyword hlead, hmark, ih second]
      simp only [List.map_cons, List.intercalate_cons_cons]

end SqlStatement
