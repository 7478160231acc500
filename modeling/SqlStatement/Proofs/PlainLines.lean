import SqlStatement.Proofs.Lines
import SqlStatement.Proofs.Numerals
import SqlStatement.Proofs.Restoration
import SqlStatement.Proofs.Selection

/-! # Statements on lines

Without the JSON option each statement is shown as its text and a line feed. The
texts of a configuration go into a statement as they stand, line feeds included.
So a statement takes one line exactly when none of its texts holds a line feed,
and the output is one statement a line exactly when this is so of each of them.
-/

namespace SqlStatement

/-! ## Line feeds in a statement -/

theorem SortKey.newline_mem_entry_iff (key : SortKey) :
    '\n' ∈ key.entry.toList ↔ '\n' ∈ key.column.toList := by
  unfold entry
  split <;> simp

namespace Head

def texts (head : Head) : List String :=
  head.table.name :: (head.columns?.getD [] ++ head.assignments)

theorem newline_mem_opening_iff (head : Head) :
    '\n' ∈ head.opening.toList ↔ ∃ text ∈ head.texts, '\n' ∈ text.toList := by
  have hnone : '\n' ∉ "".toList := by decide
  have hcomma : '\n' ∉ ", ".toList := by decide
  have hitems := mem_itemized_iff hnone hcomma
  cases head with
  | select columns table =>
      cases columns with
      | none => simp [opening, texts, Head.table, columns?, assignments]
      | some columns => simp [opening, texts, Head.table, columns?, assignments, hitems, or_comm]
  | update table assignments =>
      simp [opening, texts, Head.table, columns?, Head.assignments, hitems]
  | delete table => simp [opening, texts, Head.table, columns?, assignments]

end Head

/-- The line feeds of a statement are those of the texts that went into it. -/
theorem newline_mem_layout_iff (head : Head) (conditions : List String) (keys : List SortKey)
    (limits : List RowLimit) :
    '\n' ∈ (layout head conditions keys limits).toList ↔
      ∃ text ∈ head.texts ++ conditions ++ keys.map SortKey.column, '\n' ∈ text.toList := by
  have hwhere : '\n' ∉ " WHERE ".toList := by decide
  have hand : '\n' ∉ " AND ".toList := by decide
  have horder : '\n' ∉ " ORDER BY ".toList := by decide
  have hlimit : '\n' ∉ " LIMIT ".toList := by decide
  have hcomma : '\n' ∉ ", ".toList := by decide
  have hcolumns : (∃ entry ∈ keys.map SortKey.entry, '\n' ∈ entry.toList) ↔
      ∃ column ∈ keys.map SortKey.column, '\n' ∈ column.toList := by
    simp [SortKey.newline_mem_entry_iff]
  -- Row counts are numerals; everything else is a text of its own.
  have hcounts : ¬ ∃ count ∈ limits.map fun rows => toString rows.count, '\n' ∈ count.toList := by
    intro h
    obtain ⟨count, hcount, hfeed⟩ := h
    obtain ⟨rows, -, rfl⟩ := List.mem_map.mp hcount
    exact absurd (isDigit_of_mem_toString hfeed) (by decide)
  simp only [layout, String.toList_append, List.mem_append, head.newline_mem_opening_iff,
    mem_itemized_iff hwhere hand, mem_itemized_iff horder hcomma, mem_itemized_iff hlimit hcomma,
    hcolumns, hcounts]
  simp [or_and_right, exists_or, or_assoc]

namespace NamedStatement

variable {statement : NamedStatement} {sql : Sql}

/-- The texts of a statement that go into its SQL. -/
def texts (statement : NamedStatement) : List String :=
  statement.table :: (statement.columns.getD [] ++ statement.assignments) ++ statement.filters ++
    statement.sortKeys.map SortKey.column

def OneLine (statement : NamedStatement) : Prop :=
  ∀ text ∈ statement.texts, '\n' ∉ text.toList

instance (statement : NamedStatement) : Decidable statement.OneLine :=
  inferInstanceAs (Decidable (∀ text ∈ statement.texts, '\n' ∉ text.toList))

theorem text_eq_layout (hbuild : statement.build = .ok sql) :
    ∃ rows, sql.text = layout statement.head statement.filters statement.sortKeys rows := by
  rw [build_eq_bind] at hbuild
  cases hrows : statement.limits.mapM RowLimit.ofInt64 with
  | error error =>
      rw [hrows] at hbuild
      cases hbuild
  | ok rows =>
      rw [hrows] at hbuild
      obtain ⟨-, rfl⟩ := (build_eq_ok_iff _ _ _).mp hbuild
      obtain ⟨hfilters, hkeys, hlimits⟩ := (statement.interleaving_clausesWith rows).parts
      exact ⟨rows, by rw [render_text_eq_layout, hfilters, hkeys, hlimits]⟩

theorem newline_not_mem_text_iff (haccepted : statement.Accepted)
    (hbuild : statement.build = .ok sql) :
    '\n' ∉ sql.text.toList ↔ statement.OneLine := by
  obtain ⟨rows, htext⟩ := text_eq_layout hbuild
  have htexts : statement.head.texts ++ statement.filters ++
      statement.sortKeys.map SortKey.column = statement.texts := by
    rw [Head.texts, table_head, columns?_head haccepted, assignments_head haccepted]
    rfl
  rw [htext, newline_mem_layout_iff, htexts, OneLine]
  simp

end NamedStatement

/-! ## The output -/

def Built (statements : List NamedStatement) (sqls : List Sql) : Prop :=
  List.Forall₂ (fun statement sql => statement.build = .ok sql) statements sqls

theorem exists_built_of_shown {statements : List NamedStatement} {lines : List String}
    (h : List.Forall₂ (Shown false) statements lines) :
    ∃ sqls, Built statements sqls ∧ lines = (sqls.map Sql.text).map (· ++ "\n") := by
  induction h with
  | nil => exact ⟨[], .nil, rfl⟩
  | cons hfirst hrest ih =>
      obtain ⟨sql, hbuild, rfl⟩ := hfirst
      obtain ⟨sqls, hbuilt, rfl⟩ := ih
      exact ⟨sql :: sqls, .cons hbuild hbuilt, rfl⟩

theorem Built.forall_newline_not_mem_iff {statements : List NamedStatement} {sqls : List Sql}
    (h : Built statements sqls) (haccepted : ∀ statement ∈ statements, statement.Accepted) :
    (∀ text ∈ sqls.map Sql.text, '\n' ∉ text.toList) ↔
      ∀ statement ∈ statements, statement.OneLine := by
  induction h with
  | nil => simp
  | cons hbuild hrest ih =>
      obtain ⟨hfirst, hothers⟩ := List.forall_mem_cons.mp haccepted
      rw [List.map_cons, List.forall_mem_cons, List.forall_mem_cons, ih hothers,
        NamedStatement.newline_not_mem_text_iff hfirst hbuild]

/-- The output with the SQL of each statement and a line feed, and the lines it is cut into. -/
structure PlainLines (statements : List NamedStatement) (sqls : List Sql) (stdout : String) :
    Prop where
  built : Built statements sqls
  stdout_eq : stdout = String.join ((sqls.map Sql.text).map (· ++ "\n"))
  ended : statements ≠ [] → ∃ before, stdout = before ++ "\n"
  /-- Each SQL gives its own lines; behind the last line feed there is nothing. -/
  lines_eq : linesOf stdout = (sqls.map Sql.text).flatMap linesOf ++ [""]
  lines_eq_iff : linesOf stdout = sqls.map Sql.text ++ [""] ↔
    ∀ statement ∈ statements, statement.OneLine
  length_eq_iff : (linesOf stdout).length = statements.length + 1 ↔
    ∀ statement ∈ statements, statement.OneLine

theorem plainLines_of_built {statements : List NamedStatement} {sqls : List Sql}
    (hbuilt : Built statements sqls)
    (haccepted : ∀ statement ∈ statements, statement.Accepted) :
    PlainLines statements sqls (String.join ((sqls.map Sql.text).map (· ++ "\n"))) := by
  have hlength : statements.length = (sqls.map Sql.text).length := by
    rw [List.length_map, hbuilt.length_eq]
  have honeLine := hbuilt.forall_newline_not_mem_iff haccepted
  refine ⟨hbuilt, rfl, fun hsome => join_newline_ended ?_, linesOf_join _, ?_, ?_⟩
  · rw [← List.length_pos_iff, ← hlength]
    exact List.length_pos_iff.mpr hsome
  · rw [linesOf_join, List.append_cancel_right_eq, flatMap_linesOf_eq_iff, honeLine]
  · rw [linesOf_join, List.length_append, List.length_singleton, Nat.add_right_cancel_iff,
      hlength, length_flatMap_linesOf_eq_iff, honeLine]

/--
Rendered without the JSON option, the statements asked for are shown by their SQL in
the order of the configuration, each with a line feed behind it. They stand one on a
line, as many lines as statements, exactly when none of their texts has a line feed.
-/
theorem renderConfig_plainLines {config : Config} (hrules : config.broken? = none)
    {options : RenderOptions} (hplain : options.json = false)
    (hnone : (renderConfig options config).error = none) :
    (∃ sqls, PlainLines (config.asked options.names) sqls (renderConfig options config).stdout) ∧
    ∀ (sources : Sources) (arguments : List String) (text : String),
      Command.ofArguments arguments = .ok (.render options) →
        sources.file options.config = .ok text → Config.Holds sources.document text config →
          (run sources arguments).stdout = (renderConfig options config).stdout := by
  constructor
  · obtain ⟨lines, hshown, hstdout⟩ := renderConfig_shown hnone
    rw [hplain] at hshown
    obtain ⟨sqls, hbuilt, rfl⟩ := exists_built_of_shown hshown
    have haccepted : ∀ statement ∈ config.asked options.names, statement.Accepted := by
      intro statement hin
      exact (config.broken?_eq_none_iff.mp hrules).statements statement (List.mem_filter.mp hin).1
    rw [hstdout]
    exact ⟨sqls, plainLines_of_built hbuilt haccepted⟩
  · intro sources arguments text hcommand hread hholds
    rw [run_eq_renderConfig hcommand hread hholds]

/-- Two statements, of which the second has a line feed in its column. -/
def feedText : String :=
  "statements=[[\"a\",\"select\",\"t\",[\"x\"]],[\"b\",\"select\",\"t\",[\"y\\nz\"]]]\n" ++
    "version=\"1\""

def feedConfig : Config where
  version := "1"
  statements := [
    { name := "a", kind := .select, table := "t", columns := some ["x"] },
    { name := "b", kind := .select, table := "t", columns := some ["y\nz"] }]

theorem holds_feedConfig : Config.Holds Toml.readDocument feedText feedConfig := by
  have htokens : Toml.tokens (Toml.dropByteOrderMark feedText.toList) =
      Toml.pairTokens "\"a\"" "\"b\"" "\"y\\nz\"" := by decide +kernel
  refine ⟨_, Toml.readDocument_pair htokens rfl rfl rfl, ?_, by decide +kernel⟩
  rw [Shape.ofTable, sortedByKey_of_pairwise (by decide)]
  rfl

theorem renderConfig_plainLines_feedConfig :
    feedConfig.broken? = none ∧ (renderConfig {} feedConfig).error = none ∧
    (∃ sqls, PlainLines (feedConfig.asked []) sqls (renderConfig {} feedConfig).stdout) ∧
    ∀ (sources : Sources) (arguments : List String) (text : String),
      Command.ofArguments arguments = .ok (.render {}) →
        sources.file "sqlkit.toml" = .ok text → Config.Holds sources.document text feedConfig →
          (run sources arguments).stdout = (renderConfig {} feedConfig).stdout := by
  have hrules : feedConfig.broken? = none := by decide +kernel
  have hnone : (renderConfig {} feedConfig).error = none := by decide +kernel
  exact ⟨hrules, hnone, renderConfig_plainLines hrules rfl hnone⟩

/-- A column on two lines makes a statement on two lines. -/
theorem not_forall_line_each :
    ¬ ∀ (file : String → Except ReadError String) (arguments : List String)
      (options : RenderOptions) (text : String) (config : Config) (sqls : List Sql),
      Command.ofArguments arguments = .ok (.render options) → options.json = false →
      file options.config = .ok text → Config.Holds Toml.readDocument text config →
      (run (.ofFiles file) arguments).error = none → Built (config.asked options.names) sqls →
        linesOf (run (.ofFiles file) arguments).stdout = sqls.map Sql.text ++ [""] := by
  intro hall
  have hcommand : Command.ofArguments ["sqlkit", "render"] = .ok (.render {}) := by decide +kernel
  have hrun : run (.ofFiles fun _ => .ok feedText) ["sqlkit", "render"] =
      renderConfig {} feedConfig := run_eq_renderConfig hcommand rfl holds_feedConfig
  have hbuilt : Built (feedConfig.asked []) [⟨"SELECT x FROM t;"⟩, ⟨"SELECT y\nz FROM t;"⟩] := by
    rw [feedConfig.asked_nil]
    exact .cons (by decide +kernel) (.cons (by decide +kernel) .nil)
  have hlines := hall (fun _ => .ok feedText) ["sqlkit", "render"] {} feedText feedConfig
    [⟨"SELECT x FROM t;"⟩, ⟨"SELECT y\nz FROM t;"⟩] hcommand rfl rfl holds_feedConfig
    (hrun ▸ by decide +kernel) hbuilt
  rw [hrun] at hlines
  exact absurd hlines (by decide +kernel)

end SqlStatement
