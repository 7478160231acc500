import SqlStatement.Proofs.JsonObject
import SqlStatement.Proofs.Lines
import SqlStatement.Proofs.RunFault
import SqlStatement.Proofs.Switches

/-! # Records on lines

With the JSON option each statement is shown as a record on a line of its own.
Cut into lines and read as JSON, the records give back the names and the texts of
the statements; and the texts, one on a line, are what the same run shows without
the option. The two runs fail together, and with the same error.
-/

namespace SqlStatement

/-! ## Both outputs -/

/-- A row holds a statement: as JSON it is an object with the name and the text, and no more. -/
def Recorded (statement : NamedStatement) (row : String) : Prop :=
  ∃ sql, statement.build = .ok sql ∧
    Json.readObject? row = some [("name", statement.name), ("sql", sql.text)]

/-- What a row, read as JSON, has under a name. -/
def Json.member? (name row : String) : Option String :=
  (Json.readObject? row).bind (List.lookup name)

/-- One output holds a record for each statement, and the other one the texts of these records. -/
def Lossless (statements : List NamedStatement) (records lines : String) : Prop :=
  ∃ rows texts, linesOf records = rows ++ [""] ∧ List.Forall₂ Recorded statements rows ∧
    rows.mapM (Json.member? "sql") = some texts ∧ lines = String.join (texts.map (· ++ "\n"))

theorem lossless_of_built {statements : List NamedStatement} {built : List (String × Sql)}
    (hbuilt : buildAll statements = .ok built) :
    Lossless statements (String.join (built.map fun (name, sql) => outputLine true name sql))
      (String.join (built.map fun (name, sql) => outputLine false name sql)) := by
  rw [buildAll_eq_mapM, mapM_eq_ok_iff] at hbuilt
  have hrecords : (built.map fun (name, sql) => outputLine true name sql) =
      (built.map fun (name, sql) => recordText name sql).map (· ++ "\n") := by
    simp only [List.map_map, Function.comp_def, outputLine_json]
  have hlines : (built.map fun (name, sql) => outputLine false name sql) =
      (built.map fun (_, sql) => sql.text).map (· ++ "\n") := by
    simp [Function.comp_def, outputLine]
  refine ⟨built.map fun (name, sql) => recordText name sql, built.map fun (_, sql) => sql.text,
    ?_, ?_, ?_, by rw [hlines]⟩
  · rw [hrecords, linesOf_join, flatMap_linesOf_of_not_mem]
    intro row hrow
    obtain ⟨made, -, rfl⟩ := List.mem_map.mp hrow
    exact newline_not_mem_recordText made.1 made.2
  · rw [List.forall₂_map_right_iff]
    apply hbuilt.imp
    intro statement made hmade
    obtain ⟨hname, hbuild⟩ := (statement.record_eq_ok_iff made).mp hmade
    exact ⟨made.2, hbuild, hname ▸ readObject?_recordText made.1 made.2⟩
  · have hmember : ∀ made : String × Sql,
        Json.member? "sql" (recordText made.1 made.2) = some made.2.text := by
      intro made
      rw [Json.member?, readObject?_recordText]
      rfl
    rw [List.mapM_map]
    simp only [Function.comp_def, hmember]
    exact List.mapM_pure

/-! ## Two runs -/

/-- The outcome of rendering as JSON, beside the outcome of the same without it. -/
structure SameRendering (statements : List NamedStatement) (shown plain : Outcome) : Prop where
  error_eq : shown.error = plain.error
  lossless : shown.error = none → Lossless statements shown.stdout plain.stdout

section Runs

variable (options : RenderOptions)

theorem sameRendering_renderConfig (config : Config) :
    SameRendering (config.asked options.names) (renderConfig (Switch.json.on options) config)
      (renderConfig (Switch.json.off options) config) := by
  have hon : (Switch.json.on options).names = options.names := rfl
  have hoff : (Switch.json.off options).names = options.names := rfl
  unfold renderConfig Config.render
  rw [hon, hoff]
  cases config.unknownName? options.names with
  | some name => exact ⟨rfl, fun hnone => by cases hnone⟩
  | none =>
      cases hbuilt : buildAll (config.selected options.names) with
      | error error => exact ⟨rfl, fun hnone => by cases hnone⟩
      | ok built =>
          rw [config.selected_eq_asked] at hbuilt
          exact ⟨rfl, fun _ => lossless_of_built hbuilt⟩

theorem renderSource_error_or_sameRendering (readDocument : DocumentReader)
    (source : Except ReadError String) :
    (∃ error, (renderSource readDocument (Switch.json.on options) source).error = some error ∧
      (renderSource readDocument (Switch.json.off options) source).error = some error) ∨
    ∃ text config, source = .ok text ∧ Config.Holds readDocument text config ∧
      SameRendering (config.asked options.names)
        (renderSource readDocument (Switch.json.on options) source)
        (renderSource readDocument (Switch.json.off options) source) := by
  cases source with
  | error error => exact Or.inl ⟨_, rfl, rfl⟩
  | ok text =>
      unfold renderSource
      cases hload : Config.ofText readDocument text with
      | error error =>
          simp only [hload]
          exact Or.inl ⟨_, rfl, rfl⟩
      | ok config =>
          simp only [hload]
          have hholds := (Config.ofText_eq_ok_iff _ _ _).mp hload
          exact Or.inr ⟨text, config, rfl, hholds, sameRendering_renderConfig options config⟩

end Runs

/-- A run of the command that renders, after its options were read. -/
theorem run_render (sources : Sources) (program : String) (words : List String) :
    run sources (program :: "render" :: words) =
      match RenderOptions.read {} words with
      | .error error => { error := some (.arguments error) }
      | .ok (.help topic) => { stdout := topic.text }
      | .ok (.render options) =>
          renderSource sources.document options (sources.file options.config) := by
  have hcommand := Command.ofArguments_render program words
  unfold run
  cases hwords : RenderOptions.read {} words with
  | error error => simp only [hcommand, hwords]
  | ok command => cases command <;> simp only [hcommand, hwords]

/--
For every configuration and every choice of names, rendering as JSON and rendering
without it fail together, and otherwise nothing is lost in the records. So it is
for every run, beside the run in which the words for the JSON option are left out.
-/
theorem run_json_lossless (sources : Sources) (program : String) (words : List String) :
    (∀ options config, SameRendering (config.asked options.names)
      (renderConfig (Switch.json.on options) config)
      (renderConfig (Switch.json.off options) config)) ∧
    (run sources (program :: "render" :: words)).error =
      (run sources (program :: "render" :: Switch.json.without words)).error ∧
    (∀ options, RenderOptions.read {} words = .ok (.render options) → options.json = true →
      (run sources (program :: "render" :: words)).error = none →
        ∃ text config, sources.file options.config = .ok text ∧
          Config.Holds sources.document text config ∧
          Lossless (config.asked options.names) (run sources (program :: "render" :: words)).stdout
            (run sources (program :: "render" :: Switch.json.without words)).stdout) := by
  have hwithout := Switch.json.read_without {} words
  have hoff : Switch.json.off {} = {} := rfl
  rw [hoff] at hwithout
  refine ⟨sameRendering_renderConfig, ?_⟩
  rw [run_render, run_render, hwithout]
  cases hwords : RenderOptions.read {} words with
  | error error => exact ⟨rfl, fun options hread => by cases hread⟩
  | ok command =>
      cases command with
      | help topic => exact ⟨rfl, fun options hread => by cases hread⟩
      | render options =>
          show (renderSource sources.document options (sources.file options.config)).error =
            (renderSource sources.document (Switch.json.off options)
              (sources.file options.config)).error ∧ _
          cases hjson : Switch.json.isOn options with
          | false =>
              rw [Switch.off_eq_self hjson]
              refine ⟨rfl, fun others hothers hon => ?_⟩
              cases hothers
              exact absurd (hjson.symm.trans hon) Bool.false_ne_true
          | true =>
              have hrun := renderSource_error_or_sameRendering options sources.document
                (sources.file options.config)
              rw [Switch.on_eq_self hjson] at hrun
              rcases hrun with ⟨error, hshown, hplain⟩ | ⟨text, config, htext, hholds, hsame⟩
              · refine ⟨hshown.trans hplain.symm, fun others hothers _ hnone => ?_⟩
                exact absurd (hshown.symm.trans hnone) (by simp)
              · refine ⟨hsame.error_eq, fun others hothers _ hnone => ?_⟩
                cases hothers
                exact ⟨text, config, htext, hholds, hsame.lossless hnone⟩

end SqlStatement
