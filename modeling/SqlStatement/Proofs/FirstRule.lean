import SqlStatement.Proofs.Acceptance
import SqlStatement.Proofs.Traversal

/-! # The rule that is told

Several rules may be broken at once, and one of them is told: the version, or else a
rule that the first faulty statement breaks, and of its rules the first in a fixed
order. Whether a configuration is accepted depends neither on the order of its
statements nor on anything in their clauses.
-/

namespace SqlStatement

/-! ## The rules of a statement -/

inductive Rule where
  | freshName
  | name
  | table
  | columnsOfSelect
  | someColumn
  | someAssignment
  | assignmentsOfUpdate

namespace Rule

/-- The order in which a statement is held against the rules. -/
def inOrder : List Rule :=
  [freshName, name, table, columnsOfSelect, someColumn, someAssignment, assignmentsOfUpdate]

/-- What a rule asks of a statement behind others with the names `earlier`. -/
def Kept (earlier : List String) (statement : NamedStatement) : Rule → Prop
  | freshName => statement.name ∉ earlier
  | name => ∃ c ∈ statement.name.toList, Text.isBlank c = false
  | table => ∃ c ∈ statement.table.toList, Text.isBlank c = false
  | columnsOfSelect => statement.columns ≠ none → statement.kind = .select
  | someColumn => statement.columns ≠ some []
  | someAssignment => statement.kind = .update → statement.assignments ≠ []
  | assignmentsOfUpdate => statement.kind ≠ .update → statement.assignments = []

def error (statement : NamedStatement) : Rule → RuleError
  | freshName => .duplicateName statement.name
  | name => .blankName
  | table => .blankTable statement.name
  | columnsOfSelect => .strayColumns statement.name
  | someColumn => .noColumns statement.name
  | someAssignment => .noAssignments statement.name
  | assignmentsOfUpdate => .strayAssignments statement.name

def message (name : String) : Rule → String
  | freshName => "duplicate statement name: " ++ name
  | .name => "statement name must not be empty"
  | table => "statements." ++ name ++ ": " ++ "table must not be empty"
  | columnsOfSelect => "statements." ++ name ++ ": " ++ "columns is only valid for select"
  | someColumn => "statements." ++ name ++ ": " ++ "columns must not be empty (omit it for *)"
  | someAssignment => "statements." ++ name ++ ": " ++ "update requires at least one set entry"
  | assignmentsOfUpdate => "statements." ++ name ++ ": " ++ "set is only valid for update"

theorem error_message (statement : NamedStatement) (rule : Rule) :
    (error statement rule).message = message statement.name rule := by
  cases rule <;> rfl

theorem kept_reverse (earlier : List String) : Kept earlier.reverse = Kept earlier := by
  funext statement rule
  cases rule <;> simp [Kept]

/-- What is told of the first of some rules that a statement breaks. -/
def Told (earlier : List String) (statement : NamedStatement) (rules : List Rule)
    (told : RuleError) : Prop :=
  ∃ rule, FirstFailing (Kept earlier statement) rules rule ∧ error statement rule = told

section Told

variable (earlier : List String) (statement : NamedStatement) (told : RuleError)

theorem not_told_nil : ¬ Told earlier statement [] told := by
  intro h
  obtain ⟨rule, hrule, -⟩ := h
  exact not_firstFailing_nil _ rule hrule

theorem told_cons_iff (rule : Rule) (rules : List Rule) :
    Told earlier statement (rule :: rules) told ↔
      (¬ Kept earlier statement rule ∧ error statement rule = told) ∨
        (Kept earlier statement rule ∧ Told earlier statement rules told) := by
  unfold Told
  simp only [firstFailing_cons_iff]
  constructor
  · intro h
    obtain ⟨found, ⟨hbroken, rfl⟩ | ⟨hkept, hfound⟩, htold⟩ := h
    · exact Or.inl ⟨hbroken, htold⟩
    · exact Or.inr ⟨hkept, found, hfound, htold⟩
  · intro h
    rcases h with ⟨hbroken, htold⟩ | ⟨hkept, found, hfound, htold⟩
    · exact ⟨rule, Or.inl ⟨hbroken, rfl⟩, htold⟩
    · exact ⟨found, Or.inr ⟨hkept, hfound⟩, htold⟩

end Told

/-- The rules are visited in their order, and the first that is broken is told. -/
theorem broken?_eq_some_iff (earlier : List String) (statement : NamedStatement)
    (told : RuleError) :
    (if statement.name ∈ earlier then some (.duplicateName statement.name)
      else statement.broken?) = some told ↔ Told earlier statement inOrder told := by
  have hblank : ∀ s : String, Text.isBlankText s = true ↔
      ¬ ∃ c ∈ s.toList, Text.isBlank c = false := by
    intro s
    rw [← Text.isBlankText_eq_false_iff, Bool.not_eq_false]
  -- The tests and the rules then stand in the same order, each with what is told.
  simp only [NamedStatement.broken?, ite_eq_iff, hblank, Option.isSome_iff_ne_none, inOrder,
    told_cons_iff, not_told_nil, Kept, error, Option.some.injEq, Classical.not_imp, not_and,
    not_not, ne_eq, reduceCtorEq, and_false]

end Rule

/-! ## The statements of a configuration -/

/-- The names of the statements before the first faulty one have been seen by then. -/
theorem brokenFrom?_eq_some_iff (seen : List String) (statements : List NamedStatement)
    (told : RuleError) :
    brokenFrom? seen statements = some told ↔
      ∃ before statement after, statements = before ++ statement :: after ∧
        brokenFrom? seen before = none ∧
        Rule.Told ((before.map NamedStatement.name).reverse ++ seen) statement Rule.inOrder
          told := by
  induction statements generalizing seen with
  | nil => simp [brokenFrom?]
  | cons first rest ih =>
      rw [brokenFrom?_cons, Option.or_eq_some_iff, Rule.broken?_eq_some_iff, ih]
      constructor
      · intro h
        rcases h with htold | ⟨hfirst, before, statement, after, rfl, hbefore, htold⟩
        · exact ⟨[], first, rest, rfl, rfl, by simpa using htold⟩
        · refine ⟨first :: before, statement, after, rfl, ?_, by simpa using htold⟩
          rw [brokenFrom?_cons, hfirst, Option.none_or, hbefore]
      · intro h
        obtain ⟨before, statement, after, hsplit, hbefore, htold⟩ := h
        cases before with
        | nil =>
            obtain ⟨rfl, rfl⟩ := List.cons.inj hsplit
            exact Or.inl (by simpa using htold)
        | cons earlier before =>
            obtain ⟨rfl, hrest⟩ := List.cons.inj hsplit
            rw [brokenFrom?_cons, Option.or_eq_none_iff] at hbefore
            obtain ⟨hfirst, hbefore⟩ := hbefore
            exact Or.inr ⟨hfirst, before, statement, after, hrest, hbefore, by simpa using htold⟩

namespace Config

/-- The first statement with a broken rule, and the first of its rules that is broken. -/
def FirstBroken (config : Config) (statement : NamedStatement) (rule : Rule) : Prop :=
  ∃ before after, config.statements = before ++ statement :: after ∧
    (before.map NamedStatement.name).Nodup ∧ (∀ earlier ∈ before, earlier.Accepted) ∧
    FirstFailing (Rule.Kept (before.map NamedStatement.name) statement) Rule.inOrder rule

theorem brokenFrom?_nil_eq_some_iff (config : Config) (told : RuleError) :
    brokenFrom? [] config.statements = some told ↔
      ∃ statement rule, config.FirstBroken statement rule ∧ rule.error statement = told := by
  simp only [brokenFrom?_eq_some_iff, brokenFrom?_eq_none_iff, List.append_nil, Rule.Told,
    Rule.kept_reverse, FirstBroken]
  constructor
  · intro h
    obtain ⟨before, statement, after, hsplit, ⟨-, hnames, hbefore⟩, rule, hrule, htold⟩ := h
    exact ⟨statement, rule, ⟨before, after, hsplit, hnames, hbefore, hrule⟩, htold⟩
  · intro h
    obtain ⟨statement, rule, ⟨before, after, hsplit, hnames, hbefore, hrule⟩, htold⟩ := h
    exact ⟨before, statement, after, hsplit, ⟨by simp, hnames, hbefore⟩, rule, hrule, htold⟩

/-- Why a configuration is refused, in the words of the message. -/
inductive Refused (config : Config) : String → Prop
  | version (hversion : config.version ≠ "1") :
      Refused config
        ("unsupported config version " ++ Text.quoted config.version ++ " (expected \"1\")")
  | rule {statement rule} (hversion : config.version = "1")
      (hfirst : config.FirstBroken statement rule) : Refused config (rule.message statement.name)

theorem unsupportedVersion_message (version : String) :
    (RuleError.unsupportedVersion version).message =
      "unsupported config version " ++ Text.quoted version ++ " (expected \"1\")" := by
  have hexpected : " (expected " ++ (Text.quoted supportedVersion ++ ")") =
      " (expected \"1\")" := by decide +kernel
  show "unsupported config version " ++ Text.quoted version ++ " (expected " ++
    Text.quoted supportedVersion ++ ")" = _
  rw [← hexpected, ← String.append_assoc, ← String.append_assoc]

theorem message_eq_some_iff (config : Config) (text : String) :
    config.broken?.map RuleError.message = some text ↔ config.Refused text := by
  unfold broken? supportedVersion
  by_cases hversion : config.version = "1"
  · rw [if_neg (not_not.mpr hversion), Option.map_eq_some_iff]
    simp only [brokenFrom?_nil_eq_some_iff]
    constructor
    · intro h
      obtain ⟨-, ⟨statement, rule, hfirst, rfl⟩, rfl⟩ := h
      exact Rule.error_message statement rule ▸ .rule hversion hfirst
    · intro h
      cases h with
      | version hother => exact absurd hversion hother
      | @rule statement rule _ hfirst =>
          exact ⟨_, ⟨statement, rule, hfirst, rfl⟩, rule.error_message statement⟩
  · rw [if_pos hversion, Option.map_some, Option.some.injEq]
    constructor
    · rintro rfl
      exact unsupportedVersion_message config.version ▸ .version hversion
    · intro h
      cases h with
      | version => exact unsupportedVersion_message config.version
      | rule hsame => exact absurd hsame hversion

end Config

/-! ## What does not matter -/

namespace NamedStatement

def withoutClauses (statement : NamedStatement) : NamedStatement :=
  { statement with filters := [], sortKeys := [], limits := [] }

theorem broken?_withoutClauses (statement : NamedStatement) :
    statement.withoutClauses.broken? = statement.broken? := rfl

end NamedStatement

theorem brokenFrom?_map_withoutClauses (seen : List String) (statements : List NamedStatement) :
    brokenFrom? seen (statements.map NamedStatement.withoutClauses) =
      brokenFrom? seen statements := by
  induction statements generalizing seen with
  | nil => rfl
  | cons statement rest ih =>
      rw [List.map_cons, brokenFrom?_cons, brokenFrom?_cons, statement.broken?_withoutClauses, ih]
      rfl

namespace Config

theorem broken?_eq_of_map_withoutClauses {config other : Config}
    (hversion : other.version = config.version)
    (hstatements : other.statements.map NamedStatement.withoutClauses =
      config.statements.map NamedStatement.withoutClauses) :
    other.broken? = config.broken? := by
  unfold broken?
  rw [hversion, ← brokenFrom?_map_withoutClauses [] other.statements, hstatements,
    brokenFrom?_map_withoutClauses]

theorem accepted_iff_of_perm {config other : Config} (hversion : other.version = config.version)
    (hstatements : other.statements.Perm config.statements) :
    other.Accepted ↔ config.Accepted := by
  have hnames := (hstatements.map NamedStatement.name).nodup_iff
  constructor
  · intro h
    exact ⟨hversion ▸ h.version, hnames.mp h.names,
      fun statement hin => h.statements statement (hstatements.mem_iff.mpr hin)⟩
  · intro h
    exact ⟨hversion.trans h.version, hnames.mpr h.names,
      fun statement hin => h.statements statement (hstatements.mem_iff.mp hin)⟩

/--
A configuration is accepted when its version is known, its names differ, and each
statement keeps the rules on its own. Otherwise it is refused for the version, or else for
the first rule that the first faulty statement breaks. The order of the statements does
not decide whether it is accepted, and clauses change nothing at all.
-/
theorem accepted_or_first_rule (config : Config) :
    (config.broken? = none ↔
      config.version = "1" ∧ (config.statements.map NamedStatement.name).Nodup ∧
        ∀ statement ∈ config.statements, statement.Accepted) ∧
    (∀ text, config.broken?.map RuleError.message = some text ↔ config.Refused text) ∧
    (∀ statements, statements.Perm config.statements →
      (broken? { config with statements } = none ↔ config.broken? = none)) ∧
    ∀ statements,
      statements.map NamedStatement.withoutClauses =
        config.statements.map NamedStatement.withoutClauses →
      broken? { config with statements } = config.broken? := by
  refine ⟨?_, config.message_eq_some_iff, ?_, ?_⟩
  · rw [broken?_eq_none_iff]
    constructor
    · intro h
      exact ⟨h.version, h.names, h.statements⟩
    · intro h
      obtain ⟨hversion, hnames, hstatements⟩ := h
      exact ⟨hversion, hnames, hstatements⟩
  · intro statements hperm
    rw [broken?_eq_none_iff, broken?_eq_none_iff]
    exact accepted_iff_of_perm rfl hperm
  · intro statements hsame
    exact broken?_eq_of_map_withoutClauses rfl hsame

-- The second statement breaks four rules and the third breaks two; the first of all is told.
example :
    broken? {
      version := "1"
      statements := [
        { name := "a", kind := .delete, table := "t", limits := [0] },
        { name := " ", kind := .delete, table := "", columns := some [] },
        { name := "a", kind := .update, table := "t" }] } = some .blankName := by
  decide +kernel

end Config

end SqlStatement
