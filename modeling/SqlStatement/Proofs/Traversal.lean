import Mathlib.Data.List.Forall2

/-! # One after the other

Lists are worked through in order, and the first item that fails a test, or whose
computation fails, decides for them all. `FirstFailing` and `FirstError` say which
item that is: what stands behind it does not count.
-/

namespace SqlStatement

section Traversal

variable {α β ε : Type}

/-- The first item without a property. -/
def FirstFailing (P : α → Prop) (items : List α) (found : α) : Prop :=
  ∃ before after, items = before ++ found :: after ∧ (∀ earlier ∈ before, P earlier) ∧ ¬ P found

theorem not_firstFailing_nil (P : α → Prop) (found : α) : ¬ FirstFailing P [] found := by
  intro h
  obtain ⟨before, after, hsplit, -⟩ := h
  simp at hsplit

theorem firstFailing_cons_iff (P : α → Prop) (item : α) (rest : List α) (found : α) :
    FirstFailing P (item :: rest) found ↔
      (¬ P item ∧ found = item) ∨ (P item ∧ FirstFailing P rest found) := by
  constructor
  · intro h
    obtain ⟨before, after, hsplit, hbefore, hfound⟩ := h
    cases before with
    | nil =>
        obtain ⟨rfl, -⟩ := List.cons.inj hsplit
        exact Or.inl ⟨hfound, rfl⟩
    | cons first before =>
        obtain ⟨rfl, hrest⟩ := List.cons.inj hsplit
        obtain ⟨hitem, hbefore⟩ := List.forall_mem_cons.mp hbefore
        exact Or.inr ⟨hitem, before, after, hrest, hbefore, hfound⟩
  · intro h
    rcases h with ⟨hitem, rfl⟩ | ⟨hitem, before, after, rfl, hbefore, hfound⟩
    · exact ⟨[], rest, rfl, by simp, hitem⟩
    · exact ⟨item :: before, after, rfl, List.forall_mem_cons.mpr ⟨hitem, hbefore⟩, hfound⟩

section Search

variable {P : α → Prop} {test : α → Bool}

theorem find?_not_eq_none_iff (htest : ∀ item, test item = true ↔ P item) (items : List α) :
    (items.find? fun item => !test item) = none ↔ ∀ item ∈ items, P item := by
  simp [← htest]

theorem find?_not_eq_some_iff (htest : ∀ item, test item = true ↔ P item) (items : List α)
    (found : α) :
    (items.find? fun item => !test item) = some found ↔ FirstFailing P items found := by
  unfold FirstFailing
  simp only [List.find?_eq_some_iff_append, ← htest, Bool.not_not, Bool.not_eq_true,
    Bool.not_eq_eq_eq_not, Bool.not_true]
  constructor
  · intro h
    obtain ⟨hfound, before, after, hsplit, hbefore⟩ := h
    exact ⟨before, after, hsplit, hbefore, hfound⟩
  · intro h
    obtain ⟨before, after, hsplit, hbefore, hfound⟩ := h
    exact ⟨hfound, before, after, hsplit, hbefore⟩

end Search

theorem bind_eq_ok_iff {made : Except ε α} {f : α → Except ε β} {result : β} :
    made >>= f = .ok result ↔ ∃ one, made = .ok one ∧ f one = .ok result := by
  cases made <;> simp [bind, Except.bind]

/-- The error of the first item that fails. -/
def FirstError (f : α → Except ε β) (items : List α) (error : ε) : Prop :=
  ∃ before item after, items = before ++ item :: after ∧
    (∀ earlier ∈ before, ∃ made, f earlier = .ok made) ∧ f item = .error error

theorem not_firstError_nil (f : α → Except ε β) (error : ε) : ¬ FirstError f [] error := by
  intro h
  obtain ⟨before, item, after, hsplit, -⟩ := h
  simp at hsplit

theorem firstError_cons_iff (f : α → Except ε β) (item : α) (rest : List α) (error : ε) :
    FirstError f (item :: rest) error ↔
      f item = .error error ∨ ((∃ made, f item = .ok made) ∧ FirstError f rest error) := by
  constructor
  · intro h
    obtain ⟨before, found, after, hsplit, hbefore, hfound⟩ := h
    cases before with
    | nil =>
        obtain ⟨rfl, rfl⟩ := List.cons.inj hsplit
        exact Or.inl hfound
    | cons first before =>
        obtain ⟨rfl, hrest⟩ := List.cons.inj hsplit
        exact Or.inr ⟨hbefore item (by simp),
          before, found, after, hrest, fun earlier h => hbefore earlier (by simp [h]), hfound⟩
  · intro h
    rcases h with hitem | ⟨hitem, before, found, after, hsplit, hbefore, hfound⟩
    · exact ⟨[], item, rest, rfl, by simp, hitem⟩
    · refine ⟨item :: before, found, after, by rw [hsplit]; rfl, ?_, hfound⟩
      intro earlier hearlier
      rcases List.mem_cons.mp hearlier with rfl | hin
      · exact hitem
      · exact hbefore earlier hin

theorem mapM_eq_error_iff (f : α → Except ε β) (items : List α) (error : ε) :
    items.mapM f = .error error ↔ FirstError f items error := by
  induction items with
  | nil => simp [not_firstError_nil, pure, Except.pure]
  | cons item rest ih =>
      rw [List.mapM_cons, firstError_cons_iff, ← ih]
      cases f item with
      | error failed => simp [bind, Except.bind]
      | ok made => cases rest.mapM f <;> simp [bind, Except.bind, pure, Except.pure]

theorem mapM_eq_ok_iff (f : α → Except ε β) (items : List α) (made : List β) :
    items.mapM f = .ok made ↔ List.Forall₂ (fun item one => f item = .ok one) items made := by
  induction items generalizing made with
  | nil => simp [pure, Except.pure, eq_comm]
  | cons item rest ih =>
      rw [List.mapM_cons, List.forall₂_cons_left_iff]
      simp only [← ih]
      cases f item with
      | error failed => simp [bind, Except.bind]
      | ok one => cases rest.mapM f <;> simp [bind, Except.bind, pure, Except.pure, eq_comm]

/-- Of the items that pass a test, the first that fails stands behind sound ones. -/
theorem firstError_filter_iff (f : α → Except ε β) (p : α → Bool) (items : List α) (error : ε) :
    FirstError f (items.filter p) error ↔
      ∃ before item after, items = before ++ item :: after ∧
        (∀ earlier ∈ before, p earlier → ∃ made, f earlier = .ok made) ∧ p item ∧
        f item = .error error := by
  constructor
  · intro h
    obtain ⟨before, item, after, hsplit, hbefore, hitem⟩ := h
    obtain ⟨front, back, rfl, rfl, hback⟩ := List.filter_eq_append_iff.mp hsplit
    obtain ⟨skipped, rest, rfl, hskipped, hp, -⟩ := List.filter_eq_cons_iff.mp hback
    refine ⟨front ++ skipped, item, rest, by simp, ?_, hp, hitem⟩
    intro earlier hearlier hpasses
    rcases List.mem_append.mp hearlier with hfront | hgap
    · exact hbefore earlier (List.mem_filter.mpr ⟨hfront, hpasses⟩)
    · exact absurd hpasses (hskipped earlier hgap)
  · intro h
    obtain ⟨before, item, after, rfl, hbefore, hp, hitem⟩ := h
    refine ⟨before.filter p, item, after.filter p, by simp [hp], ?_, hitem⟩
    intro earlier hearlier
    obtain ⟨hin, hpasses⟩ := List.mem_filter.mp hearlier
    exact hbefore earlier hin hpasses

end Traversal

end SqlStatement
