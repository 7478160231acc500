import Mathlib.Data.List.Dedup
import Mathlib.Data.List.Forall2
import SqlStatement.Proofs.Acceptance
import SqlStatement.Proofs.RunFault

/-! # Names as a set

The names given to a rendering count as a set: neither their order nor their number
matters. Of the statements that they do not name, only the names count, so these
statements can be replaced where they stand, even by others that cannot be built. A
name that no statement has is told before any statement is looked at.
-/

namespace SqlStatement

namespace Config

variable {config other : Config} {names : List String}

/-! ## Names that are known -/

theorem knows_iff_mem (config : Config) (name : String) :
    config.Knows name ↔ name ∈ config.statements.map NamedStatement.name := by
  rw [Knows, List.mem_map]

theorem unknownName?_eq_find? (config : Config) (names : List String) :
    config.unknownName? names =
      names.find? fun name => !(config.statements.map NamedStatement.name).contains name := by
  unfold unknownName?
  congr 1
  funext name
  rw [Bool.eq_iff_iff, Bool.not_eq_true', Bool.not_eq_true', ← Bool.not_eq_true,
    ← Bool.not_eq_true, any_name_eq_iff, List.contains_iff_mem, knows_iff_mem]

theorem unknownName?_eq_of_names_eq
    (h : other.statements.map NamedStatement.name = config.statements.map NamedStatement.name)
    (names : List String) : other.unknownName? names = config.unknownName? names := by
  rw [unknownName?_eq_find?, unknownName?_eq_find?, h]

theorem render_of_known (hknown : ∀ name ∈ names, config.Knows name) :
    config.render names = (buildAll (config.asked names)).mapError .statement := by
  unfold render
  rw [(config.unknownName?_eq_none_iff names).mpr hknown, selected_eq_asked]

theorem render_of_firstUnknown {name : String} (hname : config.FirstUnknown names name) :
    config.render names = .error (.unknownName name) := by
  unfold render
  rw [(config.unknownName?_eq_some_iff names name).mpr hname]

theorem exists_firstUnknown (hunknown : ¬ ∀ name ∈ names, config.Knows name) :
    ∃ name, config.FirstUnknown names name := by
  rw [← unknownName?_eq_none_iff] at hunknown
  obtain ⟨name, hname⟩ := Option.ne_none_iff_exists'.mp hunknown
  exact ⟨name, (config.unknownName?_eq_some_iff names name).mp hname⟩

/-! ## Order and number of the names -/

theorem asked_eq_of_mem_iff {others : List String} (h : ∀ name, name ∈ others ↔ name ∈ names)
    (config : Config) : config.asked others = config.asked names := by
  have hempty : others = [] ↔ names = [] := by
    simp only [List.eq_nil_iff_forall_not_mem, h]
  unfold asked
  apply List.filter_congr
  intro statement _
  rw [decide_eq_decide, Asked, Asked, hempty, h]

theorem asked_of_ne_nil (hsome : names ≠ []) (config : Config) :
    config.asked names = config.statements.filter fun statement => statement.name ∈ names := by
  unfold asked
  apply List.filter_congr
  intro statement _
  rw [decide_eq_decide, Asked, or_iff_right hsome]

/-! ## Statements that are not named -/

/-- The same names in the same order, and behind the given names the same statements. -/
def SameBehind (names : List String) : List NamedStatement → List NamedStatement → Prop :=
  List.Forall₂ fun statement replaced =>
    replaced.name = statement.name ∧ (statement.name ∈ names → replaced = statement)

theorem SameBehind.map_name_eq {statements replaced : List NamedStatement}
    (h : SameBehind names statements replaced) :
    replaced.map NamedStatement.name = statements.map NamedStatement.name := by
  induction h with
  | nil => rfl
  | cons hfirst hrest ih => rw [List.map_cons, List.map_cons, hfirst.1, ih]

theorem SameBehind.filter_eq {statements replaced : List NamedStatement}
    (h : SameBehind names statements replaced) :
    (replaced.filter fun statement => statement.name ∈ names) =
      statements.filter fun statement => statement.name ∈ names := by
  induction h with
  | nil => rfl
  | @cons statement other rest others hfirst hrest ih =>
      obtain ⟨hname, hsame⟩ := hfirst
      by_cases hin : statement.name ∈ names
      · rw [hsame hin, List.filter_cons_of_pos (by simpa using hin),
          List.filter_cons_of_pos (by simpa using hin), ih]
      · have hother : other.name ∉ names := hname ▸ hin
        rw [List.filter_cons_of_neg (by simpa using hother),
          List.filter_cons_of_neg (by simpa using hin), ih]

/-! ## Rendering -/

def BuiltPair (statement : NamedStatement) (pair : String × Sql) : Prop :=
  statement.name = pair.1 ∧ statement.build = .ok pair.2

theorem forall₂_builtPair_of_buildAll {statements : List NamedStatement}
    {pairs : List (String × Sql)} (h : buildAll statements = .ok pairs) :
    List.Forall₂ BuiltPair statements pairs := by
  rw [buildAll_eq_mapM, mapM_eq_ok_iff] at h
  exact h.imp fun statement pair => (statement.record_eq_ok_iff pair).mp

theorem map_fst_of_forall₂_builtPair {statements : List NamedStatement}
    {pairs : List (String × Sql)} (h : List.Forall₂ BuiltPair statements pairs) :
    pairs.map Prod.fst = statements.map NamedStatement.name := by
  induction h with
  | nil => rfl
  | cons hfirst hrest ih => rw [List.map_cons, List.map_cons, hfirst.1, ih]

/-- One pair for each of the names, in the order of the configuration. -/
structure OnePerName (config : Config) (names : List String) (pairs : List (String × Sql)) :
    Prop where
  built : List.Forall₂ BuiltPair
    (config.statements.filter fun statement => statement.name ∈ names) pairs
  perm : (pairs.map Prod.fst).Perm names.dedup

theorem onePerName_of_render (hnames : (config.statements.map NamedStatement.name).Nodup)
    (hsome : names ≠ []) (hknown : ∀ name ∈ names, config.Knows name)
    {pairs : List (String × Sql)} (h : config.render names = .ok pairs) :
    config.OnePerName names pairs := by
  have hbuilt : buildAll (config.asked names) = .ok pairs := by
    rw [render_of_known hknown] at h
    cases hall : buildAll (config.asked names) with
    | error error => simp [hall, Except.mapError] at h
    | ok built => simpa [hall, Except.mapError] using h
  have hpairs := forall₂_builtPair_of_buildAll hbuilt
  rw [asked_of_ne_nil hsome] at hpairs
  refine ⟨hpairs, ?_⟩
  -- Both lists are without repetition, so it is enough that they have the same members.
  rw [map_fst_of_forall₂_builtPair hpairs, List.perm_ext_iff_of_nodup
    (hnames.sublist (List.filter_sublist.map _)) (List.nodup_dedup names)]
  intro name
  simp only [List.mem_map, List.mem_filter, decide_eq_true_iff, List.mem_dedup]
  constructor
  · intro hfound
    obtain ⟨statement, ⟨-, hin⟩, rfl⟩ := hfound
    exact hin
  · intro hin
    obtain ⟨statement, hstatement, rfl⟩ := hknown name hin
    exact ⟨statement, ⟨hstatement, hin⟩, rfl⟩

/-- How a rendering depends on names that are all known. -/
structure ChosenByName (config : Config) (names : List String) : Prop where
  set_only : ∀ others, (∀ name, name ∈ others ↔ name ∈ names) →
    config.render others = config.render names
  one_each : ∀ pairs, config.render names = .ok pairs → config.OnePerName names pairs
  rest_free : ∀ other : Config, SameBehind names config.statements other.statements →
    other.render names = config.render names

theorem chosenByName_of_known (haccepted : config.Accepted) (hsome : names ≠ [])
    (hknown : ∀ name ∈ names, config.Knows name) : config.ChosenByName names where
  set_only := by
    intro others hsame
    have hknown' : ∀ name ∈ others, config.Knows name :=
      fun name hin => hknown name ((hsame name).mp hin)
    rw [render_of_known hknown, render_of_known hknown', asked_eq_of_mem_iff hsame]
  one_each := fun pairs h => onePerName_of_render haccepted.names hsome hknown h
  rest_free := by
    intro other hsame
    rw [render, render, unknownName?_eq_of_names_eq hsame.map_name_eq, selected_eq_asked,
      selected_eq_asked, asked_of_ne_nil hsome, asked_of_ne_nil hsome, hsame.filter_eq]

/--
Names that are all known choose as a set: one pair for each, in the order of the
configuration, or the same error, whatever stands behind the other names. If a name is
not known, the first such name is told, whatever stands behind any name.
-/
theorem render_by_names (haccepted : config.broken? = none) (hsome : names ≠ []) :
    ((∀ name ∈ names, config.Knows name) → config.ChosenByName names) ∧
    ((¬ ∀ name ∈ names, config.Knows name) →
      ∃ name, config.FirstUnknown names name ∧
        ∀ other : Config,
          other.statements.map NamedStatement.name = config.statements.map NamedStatement.name →
          other.render names = .error (.unknownName name)) := by
  constructor
  · intro hknown
    exact chosenByName_of_known (config.broken?_eq_none_iff.mp haccepted) hsome hknown
  · intro hunknown
    obtain ⟨name, hname⟩ := exists_firstUnknown hunknown
    refine ⟨name, hname, ?_⟩
    intro other hsame
    have hother := (config.unknownName?_eq_some_iff names name).mpr hname
    rw [← unknownName?_eq_of_names_eq hsame] at hother
    exact render_of_firstUnknown ((other.unknownName?_eq_some_iff names name).mp hother)

def middleFails : Config where
  version := "1"
  statements := [
    { name := "a", kind := .select, table := "t" },
    { name := "b", kind := .delete, table := "t", limits := [5, 0] },
    { name := "c", kind := .update, table := "t", assignments := ["x = 1"] }]

theorem render_by_names_middleFails :
    middleFails.broken? = none ∧ ["c", "a", "c"] ≠ [] ∧ ["c", "x", "y"] ≠ [] ∧
    (∀ name ∈ ["c", "a", "c"], middleFails.Knows name) ∧
    middleFails.ChosenByName ["c", "a", "c"] ∧
    (¬ ∀ name ∈ ["c", "x", "y"], middleFails.Knows name) ∧
    ∃ name, middleFails.FirstUnknown ["c", "x", "y"] name ∧
      ∀ other : Config,
        other.statements.map NamedStatement.name = ["a", "b", "c"] →
        other.render ["c", "x", "y"] = .error (.unknownName name) := by
  have haccepted : middleFails.broken? = none := by decide +kernel
  have hknown : ∀ name ∈ ["c", "a", "c"], middleFails.Knows name := by
    unfold Knows
    decide
  have hunknown : ¬ ∀ name ∈ ["c", "x", "y"], middleFails.Knows name := by
    unfold Knows
    decide
  exact ⟨haccepted, by decide, by decide, hknown,
    (render_by_names haccepted (by decide)).1 hknown, hunknown,
    (render_by_names haccepted (by decide)).2 hunknown⟩

end Config

end SqlStatement
