import SqlStatement.Run
import SqlStatement.Proofs.JsonObject
import SqlStatement.Proofs.StatementFault

/-! # How a run ends

The stages of a run follow each other, and each one needs what the one before
gives. A fault speaks about its own stage and the stages before, and about the
items before the one it names; nothing later plays a part. Either a run ends with
a fault and shows nothing, or it shows a record for each statement asked for.
-/

namespace SqlStatement

/-! ## Loading -/

namespace Config

/-- What is wrong with a text: with the document, then with its shape, then with its rules. -/
inductive LoadFault (readDocument : DocumentReader) (text : String) : ConfigError → Prop
  | document {error} (htext : readDocument text = .error error) :
      LoadFault readDocument text (.document error)
  | misfit {entries misfit} (htext : readDocument text = .ok entries)
      (hshape : shape.ofTable entries = .error misfit) :
      LoadFault readDocument text (.misfit misfit)
  | rule {entries config error} (htext : readDocument text = .ok entries)
      (hshape : shape.ofTable entries = .ok config) (hrules : config.broken? = some error) :
      LoadFault readDocument text (.rule error)

/-- The configuration that a text holds. -/
def Holds (readDocument : DocumentReader) (text : String) (config : Config) : Prop :=
  ∃ entries, readDocument text = .ok entries ∧ shape.ofTable entries = .ok config ∧
    config.broken? = none

theorem ofText_eq_error_iff (readDocument : DocumentReader) (text : String)
    (error : ConfigError) :
    ofText readDocument text = .error error ↔ LoadFault readDocument text error := by
  constructor
  · intro hload
    unfold ofText at hload
    cases htext : readDocument text with
    | error failed =>
        simp only [htext, Except.error.injEq] at hload
        exact hload ▸ .document htext
    | ok entries =>
        simp only [htext, ofEntries] at hload
        cases hshape : shape.ofTable entries with
        | error misfit =>
            simp only [hshape, Except.error.injEq] at hload
            exact hload ▸ .misfit htext hshape
        | ok config =>
            simp only [hshape] at hload
            cases hrules : config.broken? with
            | none => simp [hrules] at hload
            | some broken =>
                simp only [hrules, Except.error.injEq] at hload
                exact hload ▸ .rule htext hshape hrules
  · intro hfault
    cases hfault with
    | document htext => simp only [ofText, htext]
    | misfit htext hshape => simp only [ofText, ofEntries, htext, hshape]
    | rule htext hshape hrules => simp only [ofText, ofEntries, htext, hshape, hrules]

theorem ofText_eq_ok_iff (readDocument : DocumentReader) (text : String) (config : Config) :
    ofText readDocument text = .ok config ↔ Holds readDocument text config := by
  constructor
  · intro hload
    unfold ofText ofEntries at hload
    cases htext : readDocument text with
    | error failed => simp [htext] at hload
    | ok entries =>
        cases hshape : shape.ofTable entries with
        | error misfit => simp [htext, hshape] at hload
        | ok found =>
            cases hrules : found.broken? with
            | some broken => simp [htext, hshape, hrules] at hload
            | none =>
                simp only [htext, hshape, hrules, Except.ok.injEq] at hload
                exact ⟨entries, htext, hload ▸ hshape, hload ▸ hrules⟩
  · intro h
    obtain ⟨entries, htext, hshape, hrules⟩ := h
    simp only [ofText, ofEntries, htext, hshape, hrules]

end Config

/-! ## Rendering -/

/-- A statement is asked for by its name, or because no name is given. -/
def Asked (names : List String) (statement : NamedStatement) : Prop :=
  names = [] ∨ statement.name ∈ names

instance (names : List String) (statement : NamedStatement) : Decidable (Asked names statement) :=
  inferInstanceAs (Decidable (names = [] ∨ statement.name ∈ names))

theorem mem_asked_iff (names : List String) (statement : NamedStatement) :
    (names.isEmpty || names.contains statement.name) = true ↔ Asked names statement := by
  simp [Asked]

namespace Config

def asked (config : Config) (names : List String) : List NamedStatement :=
  config.statements.filter fun statement => Asked names statement

theorem selected_eq_asked (config : Config) (names : List String) :
    config.selected names = config.asked names := by
  unfold selected asked
  apply List.filter_congr
  intro statement _
  rw [Bool.eq_iff_iff, mem_asked_iff, decide_eq_true_iff]

def Knows (config : Config) (name : String) : Prop :=
  ∃ statement ∈ config.statements, statement.name = name

/-- The first name, in the order given, that no statement has. -/
def FirstUnknown (config : Config) (names : List String) (name : String) : Prop :=
  ∃ before after, names = before ++ name :: after ∧ (∀ earlier ∈ before, config.Knows earlier) ∧
    ¬ config.Knows name

/-- The first statement asked for, in the order of the configuration, that has a fault. -/
def FirstFaulty (config : Config) (names : List String) (error : StatementError) : Prop :=
  ∃ before statement after, config.statements = before ++ statement :: after ∧
    (∀ earlier ∈ before, Asked names earlier → earlier.Sound) ∧ Asked names statement ∧
    statement.name = error.name ∧ statement.Fault error.cause

theorem any_name_eq_iff (config : Config) (name : String) :
    (config.statements.any fun statement => statement.name = name) = true ↔
      config.Knows name := by
  simp [Knows]

theorem unknownName?_eq_none_iff (config : Config) (names : List String) :
    config.unknownName? names = none ↔ ∀ name ∈ names, config.Knows name :=
  find?_not_eq_none_iff config.any_name_eq_iff names

theorem unknownName?_eq_some_iff (config : Config) (names : List String) (name : String) :
    config.unknownName? names = some name ↔ config.FirstUnknown names name :=
  find?_not_eq_some_iff config.any_name_eq_iff names name

end Config

def NamedStatement.record (statement : NamedStatement) :
    Except StatementError (String × Sql) :=
  statement.buildNamed.map fun sql => (statement.name, sql)

theorem buildAll_eq_mapM (statements : List NamedStatement) :
    buildAll statements = statements.mapM NamedStatement.record := by
  induction statements with
  | nil => rfl
  | cons statement rest ih =>
      rw [List.mapM_cons, ← ih]
      show (statement.buildNamed >>= fun _ => _) = _
      unfold NamedStatement.record
      cases statement.buildNamed <;> rfl

theorem NamedStatement.record_eq_error_iff (statement : NamedStatement) (error : StatementError) :
    statement.record = .error error ↔
      statement.name = error.name ∧ statement.Fault error.cause := by
  rw [← buildNamed_eq_error_iff]
  unfold record
  cases statement.buildNamed <;> simp [Except.map]

theorem NamedStatement.record_eq_ok_iff (statement : NamedStatement) (made : String × Sql) :
    statement.record = .ok made ↔ statement.name = made.1 ∧ statement.build = .ok made.2 := by
  obtain ⟨name, sql⟩ := made
  rw [← buildNamed_eq_ok_iff]
  unfold record
  cases statement.buildNamed <;> simp [Except.map]

theorem NamedStatement.exists_record_iff (statement : NamedStatement) :
    (∃ made, statement.record = .ok made) ↔ statement.Sound := by
  rw [sound_iff]
  simp only [record_eq_ok_iff]
  constructor
  · intro h
    obtain ⟨made, -, hbuild⟩ := h
    exact ⟨made.2, hbuild⟩
  · intro h
    obtain ⟨sql, hbuild⟩ := h
    exact ⟨(statement.name, sql), rfl, hbuild⟩

theorem Config.buildAll_eq_error_iff (config : Config) (names : List String)
    (error : StatementError) :
    buildAll (config.selected names) = .error error ↔ config.FirstFaulty names error := by
  rw [buildAll_eq_mapM, mapM_eq_error_iff, selected, firstError_filter_iff]
  simp only [FirstFaulty, mem_asked_iff, NamedStatement.exists_record_iff,
    NamedStatement.record_eq_error_iff]

/-! ## Records -/

def recordText (name : String) (sql : Sql) : String :=
  "\x7b" ++ Text.jsonString "name" ++ ":" ++ Text.jsonString name ++ ","
    ++ Text.jsonString "sql" ++ ":" ++ Text.jsonString sql.text ++ "\x7d"

theorem outputLine_json (name : String) (sql : Sql) :
    outputLine true name sql = recordText name sql ++ "\n" := by
  have hlead : "\x7b\"name\":" = "\x7b" ++ Text.jsonString "name" ++ ":" := by decide +kernel
  have hmiddle : ",\"sql\":" = "," ++ Text.jsonString "sql" ++ ":" := by decide +kernel
  have hend : "\x7d\n" = "\x7d" ++ "\n" := rfl
  rw [outputLine, if_pos rfl, hlead, hmiddle, hend]
  simp only [recordText, Sql.json, String.append_assoc]

theorem newline_not_mem_recordText (name : String) (sql : Sql) :
    '\n' ∉ (recordText name sql).toList := by
  simp [recordText, Json.newline_not_mem_jsonString]

/-- A record is read back as the name and the text that went into it. -/
theorem readObject?_recordText (name : String) (sql : Sql) :
    Json.readObject? (recordText name sql) = some [("name", name), ("sql", sql.text)] := by
  have hopening : Json.mark? '\x7b' = some .opening := rfl
  have hcolon : Json.mark? ':' = some .colon := rfl
  have hcomma : Json.mark? ',' = some .comma := rfl
  have hclosing : Json.mark? '\x7d' = some .closing := rfl
  have hchars : (recordText name sql).toList =
      '\x7b' :: (Text.jsonChars "name".toList ++ ':' :: (Text.jsonChars name.toList ++ ',' ::
        (Text.jsonChars "sql".toList ++ ':' :: (Text.jsonChars sql.text.toList ++ ['\x7d'])))) := by
    simp [recordText, Text.jsonString]
  have htokens : Json.tokens? (recordText name sql).toList =
      some [.opening, .text "name", .colon, .text name, .comma, .text "sql", .colon,
        .text sql.text, .closing] := by
    rw [hchars, Json.tokens?_mark hopening, Json.tokens?_jsonChars, Json.tokens?_mark hcolon,
      Json.tokens?_jsonChars, Json.tokens?_mark hcomma, Json.tokens?_jsonChars,
      Json.tokens?_mark hcolon, Json.tokens?_jsonChars, Json.tokens?_mark hclosing]
    simp [Json.tokens?]
  rw [Json.readObject?, htokens]
  rfl

/-- What a statement is shown as: its SQL, or an object with its name and its SQL. -/
inductive Record : Bool → String → Sql → String → Prop
  | plain {name sql} : Record false name sql (sql.text ++ "\n")
  | json {name sql} (hline : '\n' ∉ (recordText name sql).toList)
      (hread : Json.readObject? (recordText name sql) = some [("name", name), ("sql", sql.text)]) :
      Record true name sql (recordText name sql ++ "\n")

theorem record_outputLine (json : Bool) (name : String) (sql : Sql) :
    Record json name sql (outputLine json name sql) := by
  cases json with
  | false => exact .plain
  | true =>
      rw [outputLine_json]
      exact .json (newline_not_mem_recordText name sql) (readObject?_recordText name sql)

theorem Record.eq_outputLine {json : Bool} {name record : String} {sql : Sql}
    (h : Record json name sql record) : record = outputLine json name sql := by
  cases h with
  | plain => rfl
  | json hline hread => rw [outputLine_json]

/-- The records of the statements asked for, one for each and in their order. -/
inductive Records (options : RenderOptions) : List NamedStatement → List String → Prop
  | nil : Records options [] []
  | skip {statement rest records} (hskip : ¬ Asked options.names statement)
      (hrest : Records options rest records) : Records options (statement :: rest) records
  | record {statement sql record rest records} (hasked : Asked options.names statement)
      (hbuild : statement.build = .ok sql)
      (hrecord : Record options.json statement.name sql record)
      (hrest : Records options rest records) :
      Records options (statement :: rest) (record :: records)

theorem records_of_buildAll (options : RenderOptions) {statements : List NamedStatement}
    {built : List (String × Sql)}
    (hbuilt : buildAll (statements.filter fun statement =>
      options.names.isEmpty || options.names.contains statement.name) = .ok built) :
    Records options statements
      (built.map fun (name, sql) => outputLine options.json name sql) := by
  rw [buildAll_eq_mapM, mapM_eq_ok_iff] at hbuilt
  induction statements generalizing built with
  | nil =>
      cases hbuilt
      exact .nil
  | cons statement rest ih =>
      by_cases hasked : Asked options.names statement
      · rw [List.filter_cons, if_pos ((mem_asked_iff _ _).mpr hasked)] at hbuilt
        cases hbuilt with
        | @cons _ made _ others hfirst hrest =>
            obtain ⟨name, sql⟩ := made
            obtain ⟨rfl, hbuild⟩ := (statement.record_eq_ok_iff _).mp hfirst
            exact .record hasked hbuild (record_outputLine ..) (ih hrest)
      · rw [List.filter_cons, if_neg (mt (mem_asked_iff _ _).mp hasked)] at hbuilt
        exact .skip hasked (ih hbuilt)

/-- How rendering ends; what goes to standard error is left open. -/
inductive Rendered (options : RenderOptions) (config : Config) : Outcome → Prop
  | unknownName {stderr name} (hname : config.FirstUnknown options.names name) :
      Rendered options config ⟨"", stderr, some (.unknownName name)⟩
  | statement {stderr error} (hnames : ∀ name ∈ options.names, config.Knows name)
      (hfaulty : config.FirstFaulty options.names error) :
      Rendered options config ⟨"", stderr, some (.statement error)⟩
  | records {stderr records} (hrecords : Records options config.statements records) :
      Rendered options config ⟨String.join records, stderr, none⟩

theorem renderConfig_rendered (options : RenderOptions) (config : Config) :
    Rendered options config (renderConfig options config) := by
  unfold renderConfig Config.render
  cases hunknown : config.unknownName? options.names with
  | some name => exact .unknownName ((config.unknownName?_eq_some_iff _ _).mp hunknown)
  | none =>
      have hnames := (config.unknownName?_eq_none_iff _).mp hunknown
      cases hbuilt : buildAll (config.selected options.names) with
      | error error =>
          exact .statement hnames ((config.buildAll_eq_error_iff _ _).mp hbuilt)
      | ok built => exact .records (records_of_buildAll options hbuilt)

theorem renderConfig_error_of_unknownName {options : RenderOptions} {config : Config}
    {name : String} (hname : config.FirstUnknown options.names name) :
    (renderConfig options config).error = some (.unknownName name) := by
  have hunknown := (config.unknownName?_eq_some_iff _ _).mpr hname
  simp only [renderConfig, Config.render, hunknown]

theorem renderConfig_error_of_firstFaulty {options : RenderOptions} {config : Config}
    {error : StatementError} (hnames : ∀ name ∈ options.names, config.Knows name)
    (hfaulty : config.FirstFaulty options.names error) :
    (renderConfig options config).error = some (.statement error) := by
  have hknown := (config.unknownName?_eq_none_iff _).mpr hnames
  have hbuilt := (config.buildAll_eq_error_iff _ _).mpr hfaulty
  simp only [renderConfig, Config.render, hknown, hbuilt, Except.mapError]

/-! ## Runs -/

/-- The first fault of a run; each constructor asks nothing of the stages behind its own. -/
inductive RunFault (sources : Sources) (arguments : List String) : RunError → Prop
  | arguments {error} (hcommand : Command.ofArguments arguments = .error error) :
      RunFault sources arguments (.arguments error)
  | unreadable {options error} (hcommand : Command.ofArguments arguments = .ok (.render options))
      (hread : sources.file options.config = .error error) :
      RunFault sources arguments (.unreadable options.config error)
  | unloadable {options text error}
      (hcommand : Command.ofArguments arguments = .ok (.render options))
      (hread : sources.file options.config = .ok text)
      (hload : Config.LoadFault sources.document text error) :
      RunFault sources arguments (.unloadable options.config error)
  | unknownName {options text config name}
      (hcommand : Command.ofArguments arguments = .ok (.render options))
      (hread : sources.file options.config = .ok text)
      (hload : Config.Holds sources.document text config)
      (hname : config.FirstUnknown options.names name) :
      RunFault sources arguments (.unknownName name)
  | statement {options text config error}
      (hcommand : Command.ofArguments arguments = .ok (.render options))
      (hread : sources.file options.config = .ok text)
      (hload : Config.Holds sources.document text config)
      (hnames : ∀ name ∈ options.names, config.Knows name)
      (hfaulty : config.FirstFaulty options.names error) :
      RunFault sources arguments (.statement error)

inductive Ended (sources : Sources) (arguments : List String) : Outcome → Prop
  | fault {stderr error} (hfault : RunFault sources arguments error) :
      Ended sources arguments ⟨"", stderr, some error⟩
  | help {topic} (hcommand : Command.ofArguments arguments = .ok (.help topic)) :
      Ended sources arguments ⟨topic.text, "", none⟩
  | records {options text config records stderr}
      (hcommand : Command.ofArguments arguments = .ok (.render options))
      (hread : sources.file options.config = .ok text)
      (hload : Config.Holds sources.document text config)
      (hrecords : Records options config.statements records) :
      Ended sources arguments ⟨String.join records, stderr, none⟩

theorem run_ended (sources : Sources) (arguments : List String) :
    Ended sources arguments (run sources arguments) := by
  unfold run renderSource
  cases hcommand : Command.ofArguments arguments with
  | error error => exact .fault (.arguments hcommand)
  | ok command =>
      cases command with
      | help topic => exact .help hcommand
      | render options =>
          cases hread : sources.file options.config with
          | error error =>
              simp only [hread]
              exact .fault (.unreadable hcommand hread)
          | ok text =>
              cases hload : Config.ofText sources.document text with
              | error error =>
                  simp only [hread, hload]
                  have hfault := (Config.ofText_eq_error_iff _ _ _).mp hload
                  exact .fault (.unloadable hcommand hread hfault)
              | ok config =>
                  simp only [hread, hload]
                  have hholds := (Config.ofText_eq_ok_iff _ _ _).mp hload
                  have hrendered := renderConfig_rendered options config
                  generalize renderConfig options config = outcome at hrendered
                  cases hrendered with
                  | unknownName hname =>
                      exact .fault (.unknownName hcommand hread hholds hname)
                  | statement hnames hfaulty =>
                      exact .fault (.statement hcommand hread hholds hnames hfaulty)
                  | records hrecords => exact .records hcommand hread hholds hrecords

theorem run_error_of_fault {sources : Sources} {arguments : List String} {error : RunError}
    (hfault : RunFault sources arguments error) :
    (run sources arguments).error = some error := by
  cases hfault with
  | arguments hcommand => simp only [run, hcommand]
  | unreadable hcommand hread => simp only [run, renderSource, hcommand, hread]
  | unloadable hcommand hread hload =>
      have htext := (Config.ofText_eq_error_iff _ _ _).mpr hload
      simp only [run, renderSource, hcommand, hread, htext]
  | unknownName hcommand hread hload hname =>
      have htext := (Config.ofText_eq_ok_iff _ _ _).mpr hload
      simp only [run, renderSource, hcommand, hread, htext]
      exact renderConfig_error_of_unknownName hname
  | statement hcommand hread hload hnames hfaulty =>
      have htext := (Config.ofText_eq_ok_iff _ _ _).mpr hload
      simp only [run, renderSource, hcommand, hread, htext]
      exact renderConfig_error_of_firstFaulty hnames hfaulty

/--
A run ends with its first fault, and then it writes nothing. A rendering without
fault writes one record for each statement asked for, in the order of the
configuration: its SQL and a line feed, or an object on a line, which is read back as
its name and its SQL. A fault of a statement is told behind the statement's name.
-/
theorem run_first_fault_or_records (sources : Sources) (arguments : List String) :
    (∀ error, (run sources arguments).error = some error ↔ RunFault sources arguments error) ∧
    ((run sources arguments).error ≠ none → (run sources arguments).stdout = "") ∧
    (∀ options, Command.ofArguments arguments = .ok (.render options) →
      (run sources arguments).error = none →
        ∃ text config records, sources.file options.config = .ok text ∧
          Config.Holds sources.document text config ∧
          Records options config.statements records ∧
          (run sources arguments).stdout = String.join records) ∧
    (∀ error, (run sources arguments).error = some (.statement error) →
      (RunError.statement error).message =
        "statements." ++ error.name ++ ": " ++ error.cause.message) := by
  have hfaults : ∀ error, RunFault sources arguments error →
      (run sources arguments).error = some error := fun error => run_error_of_fault
  have hended := run_ended sources arguments
  generalize run sources arguments = outcome at hfaults hended ⊢
  refine ⟨fun error => ⟨fun herror => ?_, hfaults error⟩, fun herror => ?_, ?_, fun _ _ => rfl⟩
  · cases hended with
    | fault hfault =>
        cases herror
        exact hfault
    | help hcommand => cases herror
    | records hcommand hread hload hrecords => cases herror
  · cases hended with
    | fault hfault => rfl
    | help hcommand => exact absurd rfl herror
    | records hcommand hread hload hrecords => exact absurd rfl herror
  · intro options hasked hnone
    cases hended with
    | fault hfault => cases hnone
    | help hcommand =>
        rw [hcommand] at hasked
        cases hasked
    | records hcommand hread hload hrecords =>
        rw [hcommand] at hasked
        cases hasked
        exact ⟨_, _, _, hread, hload, hrecords, rfl⟩

end SqlStatement
