import SqlStatement.Proofs.Condition.Shape

/-! # What repeated conditions mean

The conditions of a statement are read from its text, between ` WHERE ` and the
segment that follows. That reading exists and is unique when each condition can
be read by itself. It is the conjunction of the conditions whatever their atoms
are exactly when there is one condition, or none with an OR outside brackets;
otherwise the statement may reach rows that one of its conditions excludes.
-/

namespace SqlStatement

open Condition (Reads Assignment)

/-- The text between ` WHERE ` and the next segment of a statement. -/
def ConditionText (head : Head) (set : ClauseSet) (text : String) : Prop :=
  (render head set).text = head.sql ++ " WHERE " ++ text
    ++ segment " ORDER BY " ", " (set.sortKeys.map SortKey.sql)
    ++ segment " LIMIT " ", " (set.limits.map fun rows => toString rows.count) ++ ";"

theorem conditionText_iff {head : Head} {set : ClauseSet} {first : String} {rest : List String}
    (hfilters : set.filters = first :: rest) (text : String) :
    ConditionText head set text ↔ text = " AND ".intercalate (first :: rest) := by
  have hsegment : segment " WHERE " " AND " set.filters =
      " WHERE " ++ " AND ".intercalate (first :: rest) := by
    rw [hfilters]
    rfl
  have hrender : (render head set).text =
      head.sql ++ " WHERE " ++ " AND ".intercalate (first :: rest)
        ++ segment " ORDER BY " ", " (set.sortKeys.map SortKey.sql)
        ++ segment " LIMIT " ", " (set.limits.map fun rows => toString rows.count) ++ ";" := by
    show head.sql ++ (segment " WHERE " " AND " set.filters ++ _ ++ _) ++ ";" = _
    rw [hsegment]
    simp only [String.append_assoc]
  unfold ConditionText
  rw [hrender]
  simp only [String.append_left_inj, String.append_right_inj]
  exact eq_comm

/-- The condition read from the statement holds exactly when all the conditions given hold. -/
def MeansConjunction (head : Head) (set : ClauseSet) (conditions : List Condition) : Prop :=
  ∀ text joined, ConditionText head set text → Reads text joined →
    ∀ v, joined.eval v = conditions.all (Condition.eval v)

theorem meansConjunction_iff {head : Head} {set : ClauseSet} {first : String}
    {rest : List String} {c : Condition} {cs : List Condition}
    (hfilters : set.filters = first :: rest) (hfirst : Reads first c)
    (hrest : List.Forall₂ Reads rest cs) :
    MeansConjunction head set (c :: cs) ↔
      ∀ v, (c.chain cs).eval v = (c :: cs).all (Condition.eval v) := by
  constructor
  · intro hmeans
    exact hmeans _ _ ((conditionText_iff hfilters _).mpr rfl) (hfirst.chain hrest)
  · intro hvalue text joined htext hjoined
    obtain rfl := (conditionText_iff hfilters text).mp htext
    obtain rfl := hjoined.unique (hfirst.chain hrest)
    exact hvalue

/-- Conditions with the same connectives and brackets, their atoms aside. -/
def SameShapes (cs ds : List Condition) : Prop :=
  cs.map Condition.shape = ds.map Condition.shape

theorem sameShapes_of_relabelled {cs ds : List Condition} (h : Condition.Relabelled cs ds) :
    SameShapes ds cs := by
  induction h with
  | nil => rfl
  | cons hfirst hrest ih =>
      simp only [SameShapes, List.map_cons, List.cons.injEq] at ih ⊢
      exact ⟨hfirst.1, ih⟩

theorem reads_texts_of_relabelled {cs ds : List Condition} (h : Condition.Relabelled cs ds) :
    List.Forall₂ Reads (ds.map Condition.text) ds := by
  induction h with
  | nil => exact .nil
  | cons hfirst hrest ih => exact .cons (Condition.reads_text hfirst.2) ih

/-- One condition, or no OR outside brackets: the rule by which a conjunction may be trusted. -/
def Conjoinable (conditions : List Condition) : Prop :=
  conditions.length = 1 ∨ ∀ c ∈ conditions, c.hasBareOr = false

theorem conjoinable_iff_of_sameShapes {cs ds : List Condition} (h : SameShapes cs ds) :
    Conjoinable cs ↔ Conjoinable ds := by
  have hbare : ∀ conditions : List Condition, (∀ c ∈ conditions, c.hasBareOr = false) ↔
      ∀ c ∈ conditions.map Condition.shape, c.hasBareOr = false := by
    intro conditions
    simp [Condition.hasBareOr_shape]
  have hlength : cs.length = ds.length := by
    have hmapped := congrArg List.length h
    simpa using hmapped
  unfold Conjoinable
  rw [hlength, hbare cs, hbare ds, h]

def filtersOnly (texts : List String) : ClauseSet :=
  ⟨texts.map .filter⟩

@[simp] theorem filters_filtersOnly (texts : List String) :
    (filtersOnly texts).filters = texts := by
  induction texts with
  | nil => rfl
  | cons first rest ih => exact congrArg (first :: ·) ih

theorem conjoinable_of_forall_meansConjunction (head : Head) {conditions : List Condition}
    (hmeans : ∀ set others, List.Forall₂ Reads set.filters others →
      SameShapes others conditions → MeansConjunction head set others) :
    Conjoinable conditions := by
  match conditions with
  | [] => exact Or.inr (by simp)
  | [c] => exact Or.inl rfl
  | c :: second :: cs =>
      refine Or.inr fun d hd => ?_
      by_contra hbare
      have hsome : ∃ d ∈ c :: second :: cs, d.hasBareOr = true := ⟨d, hd, by simpa using hbare⟩
      obtain ⟨e, es, hlabels, hchain, hparts⟩ := Condition.exists_relabelled_chain_ne hsome
      have htexts := reads_texts_of_relabelled hlabels
      have hread : List.Forall₂ Reads (filtersOnly ((e :: es).map Condition.text)).filters
          (e :: es) := by simpa using htexts
      have hconjunction := hmeans _ (e :: es) hread (sameShapes_of_relabelled hlabels)
      obtain ⟨hfirst, hrest⟩ := List.forall₂_cons.mp htexts
      have hvalue := (meansConjunction_iff (filters_filtersOnly _) hfirst hrest).mp hconjunction
        Condition.settledAtoms
      rw [hchain, hparts] at hvalue
      cases hvalue

/--
The conditions of a statement can be read from its text in one way. What is read
is never stricter than their conjunction; and it is their conjunction, for these
conditions and all others of the same shapes, exactly when they are conjoinable.
-/
theorem filters_conjunction_iff_conjoinable (head : Head) (set : ClauseSet)
    (conditions : List Condition) (hread : List.Forall₂ Reads set.filters conditions)
    (hsome : set.filters ≠ []) :
    (∃ text joined, ConditionText head set text ∧ (∀ c, Reads text c ↔ c = joined) ∧
      ∀ v, (∀ c ∈ conditions, c.eval v = true) → joined.eval v = true) ∧
    ((∀ other others, List.Forall₂ Reads other.filters others → SameShapes others conditions →
      MeansConjunction head other others) ↔ Conjoinable conditions) := by
  constructor
  · cases hfilters : set.filters with
    | nil => exact absurd hfilters hsome
    | cons first rest =>
        rw [hfilters] at hread
        cases hread with
        | @cons _ c _ cs hfirst hrest =>
            have hjoined := hfirst.chain hrest
            refine ⟨_, c.chain cs, (conditionText_iff hfilters _).mpr rfl, ?_, ?_⟩
            · intro other
              exact ⟨fun hother => hother.unique hjoined, fun hother => hother ▸ hjoined⟩
            · exact fun v hall => Condition.eval_chain_of_all hall
  · refine ⟨conjoinable_of_forall_meansConjunction head, ?_⟩
    intro hconjoinable other others hothers hshapes
    have hothersConjoinable := (conjoinable_iff_of_sameShapes hshapes).mpr hconjoinable
    cases hfilters : other.filters with
    | nil =>
        rw [hfilters] at hothers
        cases hothers
        have hnone : conditions = [] := List.map_eq_nil_iff.mp hshapes.symm
        subst hnone
        exact absurd (List.forall₂_nil_right_iff.mp hread) hsome
    | cons first rest =>
        rw [hfilters] at hothers
        cases hothers with
        | @cons _ c _ cs hfirst hrest =>
            rw [meansConjunction_iff hfilters hfirst hrest]
            intro v
            refine Condition.eval_chain_eq_all ?_ v
            rcases hothersConjoinable with hone | hterms
            · exact Or.inl (by simpa using hone)
            · exact Or.inr hterms

/-- The conditions `a OR b` and `c`. -/
def looseConditions : List Condition :=
  [.or (.one (.atom ['a'] [])) (.one (.one (.atom ['b'] []))), .one (.one (.atom ['c'] []))]

theorem reads_looseConditions : List.Forall₂ Reads ["a OR b", "c"] looseConditions :=
  .cons (by decide +kernel) (.cons (by decide +kernel) .nil)

theorem looseConditions_conjunction_iff :
    (filtersOnly ["a OR b", "c"]).filters ≠ [] ∧
    List.Forall₂ Reads (filtersOnly ["a OR b", "c"]).filters looseConditions ∧
    (∃ text joined, ConditionText (.delete ⟨"t"⟩) (filtersOnly ["a OR b", "c"]) text ∧
      (∀ c, Reads text c ↔ c = joined) ∧
      ∀ v, (∀ c ∈ looseConditions, c.eval v = true) → joined.eval v = true) ∧
    ((∀ other others, List.Forall₂ Reads other.filters others →
      SameShapes others looseConditions → MeansConjunction (.delete ⟨"t"⟩) other others) ↔
        Conjoinable looseConditions) :=
  ⟨by simp, by simpa using reads_looseConditions,
    filters_conjunction_iff_conjoinable (.delete ⟨"t"⟩) (filtersOnly ["a OR b", "c"])
      looseConditions (by simpa using reads_looseConditions) (by simp)⟩

/-- Rows with `a` and without `c` are deleted, although `c` was asked for. -/
theorem not_forall_meansConjunction :
    ¬ ∀ (head : Head) (set : ClauseSet) (conditions : List Condition),
      List.Forall₂ Reads set.filters conditions → set.filters ≠ [] →
        MeansConjunction head set conditions := by
  intro hall
  have hread : List.Forall₂ Reads (filtersOnly ["a OR b", "c"]).filters looseConditions := by
    simpa using reads_looseConditions
  have hmeans := hall (.delete ⟨"t"⟩) (filtersOnly ["a OR b", "c"]) looseConditions hread
    (by simp)
  obtain ⟨hfirst, hrest⟩ := List.forall₂_cons.mp reads_looseConditions
  have hvalue := (meansConjunction_iff (filters_filtersOnly _) hfirst hrest).mp hmeans
    fun words => words = [['a']]
  exact absurd hvalue (by decide)

end SqlStatement
