import Mathlib.Data.List.Forall2
import SqlStatement.Proofs.Acceptance
import SqlStatement.Proofs.Items
import SqlStatement.Proofs.Endings
import SqlStatement.Proofs.RunFault

/-! # Choosing statements by name

The names given to a run are the items of its name options. When there is an item,
the run shows no statement of another name; but when all the values are blank,
no name is given, and then every statement is shown. A single statement can be
chosen exactly when its name can be an item, so that a name with a comma in it,
or with a blank at either end, is out of reach.
-/

namespace SqlStatement

/-! ## What a run shows -/

/-- A line that shows a statement. -/
def Shown (json : Bool) (statement : NamedStatement) (line : String) : Prop :=
  ∃ sql, statement.build = .ok sql ∧ line = outputLine json statement.name sql

theorem Shown.ne_empty {json : Bool} {statement : NamedStatement} {line : String}
    (h : Shown json statement line) : line ≠ "" := by
  obtain ⟨sql, -, rfl⟩ := h
  cases json <;> simp [outputLine]

theorem Records.forall₂_shown {options : RenderOptions} {statements : List NamedStatement}
    {lines : List String} (h : Records options statements lines) :
    List.Forall₂ (Shown options.json)
      (statements.filter fun statement => Asked options.names statement) lines := by
  induction h with
  | nil => exact .nil
  | skip hskip hrest ih =>
      rw [List.filter_cons, if_neg (by simpa using hskip)]
      exact ih
  | record hasked hbuild hrecord hrest ih =>
      rw [List.filter_cons, if_pos (by simpa using hasked)]
      exact .cons ⟨_, hbuild, hrecord.eq_outputLine⟩ ih

section Run

variable {sources : Sources} {arguments : List String} {options : RenderOptions}
  {text : String} {config : Config}

/-- Once the configuration is read, a run is its rendering. -/
theorem run_eq_renderConfig (hcommand : Command.ofArguments arguments = .ok (.render options))
    (hread : sources.file options.config = .ok text)
    (hholds : Config.Holds sources.document text config) :
    run sources arguments = renderConfig options config := by
  have htext := (Config.ofText_eq_ok_iff _ _ _).mpr hholds
  simp only [run, renderSource, hcommand, hread, htext]

theorem renderConfig_shown (hnone : (renderConfig options config).error = none) :
    ∃ lines, List.Forall₂ (Shown options.json) (config.asked options.names) lines ∧
      (renderConfig options config).stdout = String.join lines := by
  have hrendered := renderConfig_rendered options config
  generalize renderConfig options config = outcome at hnone hrendered ⊢
  cases hrendered with
  | unknownName hname => cases hnone
  | statement hnames hfaulty => cases hnone
  | records hrecords => exact ⟨_, hrecords.forall₂_shown, rfl⟩

end Run

/-! ## Nothing but what is named -/

/-- What is shown are statements of the configuration in their order, each with one of the names. -/
def ShowsOnly (json : Bool) (config : Config) (names : List String) (stdout : String) : Prop :=
  ∃ shown lines, shown.Sublist config.statements ∧
    (∀ statement ∈ shown, statement.name ∈ names) ∧
    List.Forall₂ (Shown json) shown lines ∧ stdout = String.join lines

theorem Config.asked_nil (config : Config) : config.asked [] = config.statements := by
  simp [asked, Asked]

theorem not_showsOnly_nil {json : Bool} {config : Config} {lines : List String}
    (hsome : config.statements ≠ [])
    (hshown : List.Forall₂ (Shown json) config.statements lines) :
    ¬ ShowsOnly json config [] (String.join lines) := by
  intro h
  obtain ⟨shown, others, -, hnames, hothers, hsame⟩ := h
  -- No name, so no line; but there is a statement, and its line is not empty.
  have hnothing : shown = [] := List.eq_nil_iff_forall_not_mem.mpr fun statement hin =>
    List.not_mem_nil (hnames statement hin)
  subst hnothing
  cases hothers
  obtain ⟨first, rest, hstatements⟩ := List.exists_cons_of_ne_nil hsome
  rw [hstatements] at hshown
  cases hshown with
  | cons hfirst hrest =>
      have hempty := congrArg String.toList hsame
      simp [hfirst.ne_empty] at hempty

theorem showsOnly_names_iff {json : Bool} {config : Config} {names lines : List String}
    (hshown : List.Forall₂ (Shown json) (config.asked names) lines) :
    ShowsOnly json config names (String.join lines) ↔ names ≠ [] ∨ config.statements = [] := by
  by_cases hnames : names = []
  · subst hnames
    rw [config.asked_nil] at hshown
    by_cases hsome : config.statements = []
    · rw [hsome] at hshown
      simp only [hsome, or_true, iff_true]
      exact ⟨[], lines, List.nil_sublist _, by simp, hshown, rfl⟩
    · have hall := not_showsOnly_nil hsome hshown
      simp [hall, hsome]
  · simp only [hnames, ne_eq, not_false_eq_true, true_or, iff_true]
    refine ⟨_, _, List.filter_sublist, ?_, hshown, rfl⟩
    intro statement hin
    have hasked : Asked names statement := by simpa using (List.mem_filter.mp hin).2
    exact hasked.resolve_left hnames

namespace OptionGroup

/-- A value that does not repeat the lead of its option. -/
def Plain : OptionGroup → Prop
  | attached option value => option.lead.isPrefixOf value.toList = false
  | _ => True

theorem items_of_plain {group : OptionGroup} (h : group.Plain) :
    group.items = group.name?.toList.flatMap Text.items := by
  cases group with
  | switch switched => rfl
  | separate option value => cases option <;> simp [items, name?]
  | attached option value =>
      cases option with
      | config => rfl
      | name =>
          have hbare : ValueOption.name.bare value = value := by
            rw [ValueOption.bare_eq_self_iff, ← List.isPrefixOf_iff_prefix, Bool.not_eq_true]
            exact h
          simp [items, name?, hbare]

theorem flatMap_items_of_plain {groups : List OptionGroup} (h : ∀ group ∈ groups, group.Plain) :
    groups.flatMap items = (groups.filterMap name?).flatMap Text.items := by
  induction groups with
  | nil => rfl
  | cons group rest ih =>
      obtain ⟨hgroup, hrest⟩ := List.forall_mem_cons.mp h
      rw [List.flatMap_cons, items_of_plain hgroup, ih hrest, List.filterMap_cons]
      cases group.name? <;> simp

end OptionGroup

theorem Grouped.names_eq {program : String} {words : List String} {groups : List OptionGroup}
    (hgroups : Grouped groups words) {options : RenderOptions}
    (hcommand : Command.ofArguments (program :: "render" :: words) = .ok (.render options)) :
    options.names = groups.flatMap OptionGroup.items := by
  have hread := (Command.ofArguments_eq_render_iff _ _).mpr
    ⟨program, words, groups, rfl, hgroups, rfl⟩
  rw [hcommand] at hread
  cases hread
  rw [OptionGroup.foldl_apply_names]
  rfl

/-- The output of a run, against the names that its options give. -/
structure Narrowed (groups : List OptionGroup) (options : RenderOptions) (config : Config)
    (stdout : String) : Prop where
  names_eq : options.names = groups.flatMap OptionGroup.items
  /-- Where no value repeats its option, the names are the items of the values as written. -/
  written_eq : (∀ group ∈ groups, group.Plain) →
    options.names = (groups.filterMap OptionGroup.name?).flatMap Text.items
  showsOnly_iff : ShowsOnly options.json config options.names stdout ↔
    (∃ group ∈ groups, group.items ≠ []) ∨ config.statements = []
  all_shown : (∀ group ∈ groups, group.items = []) →
    ∃ lines, List.Forall₂ (Shown options.json) config.statements lines ∧ stdout = String.join lines

theorem narrowed_of_shown {groups : List OptionGroup} {options : RenderOptions} {config : Config}
    {lines : List String} (hnames : options.names = groups.flatMap OptionGroup.items)
    (hshown : List.Forall₂ (Shown options.json) (config.asked options.names) lines) :
    Narrowed groups options config (String.join lines) where
  names_eq := hnames
  written_eq hplain := by rw [hnames, OptionGroup.flatMap_items_of_plain hplain]
  showsOnly_iff := by
    rw [showsOnly_names_iff hshown, hnames, ne_eq, List.flatMap_eq_nil_iff]
    simp
  all_shown hblank := by
    refine ⟨lines, ?_, rfl⟩
    rwa [hnames, List.flatMap_eq_nil_iff.mpr hblank, config.asked_nil] at hshown

/--
A run that ends well shows nothing but what is named, provided that one of the values
of its name options has an item. If none has one, every statement is shown.
-/
theorem run_narrowed {sources : Sources} {arguments : List String} {options : RenderOptions}
    (hcommand : Command.ofArguments arguments = .ok (.render options))
    {text : String} (hread : sources.file options.config = .ok text) {config : Config}
    (hholds : Config.Holds sources.document text config)
    (hnone : (run sources arguments).error = none) :
    ∃ program words, arguments = program :: "render" :: words ∧
      (∃ groups, Grouped groups words) ∧
      ∀ groups, Grouped groups words →
        Narrowed groups options config (run sources arguments).stdout := by
  obtain ⟨program, words, groups, rfl, hgroups, -⟩ :=
    (Command.ofArguments_eq_render_iff arguments options).mp hcommand
  rw [run_eq_renderConfig hcommand hread hholds] at hnone ⊢
  obtain ⟨lines, hshown, hstdout⟩ := renderConfig_shown hnone
  refine ⟨program, words, rfl, ⟨groups, hgroups⟩, fun others hothers => ?_⟩
  rw [hstdout]
  exact narrowed_of_shown (hothers.names_eq hcommand) hshown

/-! ### Documents with two statements -/

namespace Toml

/-- The tokens of two statements on a line, and of the version on the next one. -/
def pairTokens (first second column : String) : List Token :=
  let row (name column : String) : List Token :=
    [.openBracket, .quoted name.toList, .comma, .quoted "\"select\"".toList, .comma,
      .quoted "\"t\"".toList, .comma, .openBracket, .quoted column.toList, .closeBracket,
      .closeBracket]
  [.word "statements".toList, .equals, .openBracket] ++ row first "\"x\"" ++ [.comma] ++
    row second column ++
    [.closeBracket, .lineEnd, .word "version".toList, .equals, .quoted "\"1\"".toList]

def pairTerm (first second column : String) : Term :=
  let row (name column : String) : Term :=
    .array [.scalar name.toList, .scalar "\"select\"".toList, .scalar "\"t\"".toList,
      .array [.scalar column.toList]]
  .array [row first "\"x\"", row second column]

def pairValue (first second column : Value) : Value :=
  let row (name column : Value) : Value :=
    .array [name, .string "select", .string "t", .array [column]]
  .array [row first (.string "x"), row second column]

variable {first second column : String} {one other shown : Value}

theorem readTerm_pairTerm (hfirst : scalar? first.toList = some one)
    (hsecond : scalar? second.toList = some other) (hcolumn : scalar? column.toList = some shown) :
    readTerm (pairTerm first second column) = .ok (pairValue one other shown) := by
  have hselect : scalar? "\"select\"".toList = some (.string "select") := rfl
  have htable : scalar? "\"t\"".toList = some (.string "t") := rfl
  have hx : scalar? "\"x\"".toList = some (.string "x") := rfl
  simp only [pairTerm, readTerm, readTerms, hfirst, hsecond, hcolumn, hselect, htable, hx]
  rfl

/-- A key that is new in a document goes behind the keys before it. -/
theorem Draft.add_key {entries : Entries} {text : List Char} {key : String} {term : Term}
    {value : Value} (hpath : readPath [text] = .ok [key]) (hterm : readTerm term = .ok value)
    (hnew : entries.find? key = none) :
    add { entries } (.entry [text] term) = .ok { entries := entries.put key (.value value) } := by
  rw [add, hpath, hterm]
  show orMalformed (addValue? { entries } [key] value) = _
  simp [addValue?, Entries.change, Entries.addValue, Entries.addKey, hnew, orMalformed]

theorem readDocument_pair {text : String}
    (htokens : tokens (dropByteOrderMark text.toList) = pairTokens first second column)
    (hfirst : scalar? first.toList = some one)
    (hsecond : scalar? second.toList = some other) (hcolumn : scalar? column.toList = some shown) :
    readDocument text =
      .ok [("statements", pairValue one other shown), ("version", .string "1")] := by
  have hlines : lines? (pairTokens first second column) =
      some [.entry ["statements".toList] (pairTerm first second column),
        .entry ["version".toList] (.scalar "\"1\"".toList)] := rfl
  have hpath : ∀ word ∈ ["statements", "version"], readPath [word.toList] = .ok [word] := by
    decide +kernel
  have hversion : readTerm (.scalar "\"1\"".toList) = .ok (.string "1") := rfl
  have hpair := readTerm_pairTerm hfirst hsecond hcolumn
  have hdraft : List.foldlM Draft.add {} [.entry ["statements".toList]
      (pairTerm first second column), .entry ["version".toList] (.scalar "\"1\"".toList)] =
        .ok { entries := [("statements", .value (pairValue one other shown)),
          ("version", .value (.string "1"))] } := by
    rw [List.foldlM_cons, bind_eq_ok_iff]
    refine ⟨_, Draft.add_key (hpath _ (by simp)) hpair rfl, ?_⟩
    rw [List.foldlM_cons, bind_eq_ok_iff]
    exact ⟨_, Draft.add_key (hpath _ (by simp)) hversion rfl, rfl⟩
  rw [readDocument, htokens, hlines]
  show (List.foldlM Draft.add {} _ >>= _) = _
  rw [hdraft]
  rfl

end Toml

/-- Two statements, of which the second has a comma in its name. -/
def commaText : String :=
  "statements=[[\"all\",\"select\",\"t\",[\"x\"]],[\"a,b\",\"select\",\"t\",[\"y\"]]]\n" ++
    "version=\"1\""

def commaConfig : Config where
  version := "1"
  statements := [
    { name := "all", kind := .select, table := "t", columns := some ["x"] },
    { name := "a,b", kind := .select, table := "t", columns := some ["y"] }]

def commaSources : Sources :=
  .ofFiles fun _ => .ok commaText

theorem holds_commaConfig : Config.Holds Toml.readDocument commaText commaConfig := by
  have htokens : Toml.tokens (Toml.dropByteOrderMark commaText.toList) =
      Toml.pairTokens "\"all\"" "\"a,b\"" "\"y\"" := by decide +kernel
  refine ⟨_, Toml.readDocument_pair htokens rfl rfl rfl, ?_, by decide +kernel⟩
  rw [Shape.ofTable, sortedByKey_of_pairwise (by decide)]
  rfl

theorem run_narrowed_all :
    Command.ofArguments ["sqlkit", "render", "--name= all ,"] =
        .ok (.render { names := ["all"] }) ∧
    Config.Holds Toml.readDocument commaText commaConfig ∧
    (run commaSources ["sqlkit", "render", "--name= all ,"]).error = none ∧
    ∃ program words, ["sqlkit", "render", "--name= all ,"] = program :: "render" :: words ∧
      (∃ groups, Grouped groups words) ∧
      ∀ groups, Grouped groups words →
        Narrowed groups { names := ["all"] } commaConfig
          (run commaSources ["sqlkit", "render", "--name= all ,"]).stdout := by
  have hcommand : Command.ofArguments ["sqlkit", "render", "--name= all ,"] =
      .ok (.render { names := ["all"] }) := by decide +kernel
  have hrun : run commaSources ["sqlkit", "render", "--name= all ,"] =
      renderConfig { names := ["all"] } commaConfig :=
    run_eq_renderConfig hcommand rfl holds_commaConfig
  have hrendered : (renderConfig { names := ["all"] } commaConfig).error = none := by
    decide +kernel
  have hnone : (run commaSources ["sqlkit", "render", "--name= all ,"]).error =
      none := hrun ▸ hrendered
  exact ⟨hcommand, holds_commaConfig, hnone,
    @run_narrowed commaSources ["sqlkit", "render", "--name= all ,"] { names := ["all"] }
      hcommand commaText rfl commaConfig holds_commaConfig hnone⟩

/-- A value that is nothing but a comma names no statement, and all of them are shown. -/
theorem not_forall_showsOnly_given :
    ¬ ∀ (file : String → Except ReadError String) (program : String) (words : List String)
      (groups : List OptionGroup) (options : RenderOptions) (text : String) (config : Config),
      Grouped groups words → groups.filterMap OptionGroup.name? ≠ [] →
      Command.ofArguments (program :: "render" :: words) = .ok (.render options) →
      file options.config = .ok text → Config.Holds Toml.readDocument text config →
      (run (.ofFiles file) (program :: "render" :: words)).error = none →
        ShowsOnly options.json config ((groups.filterMap OptionGroup.name?).flatMap Text.items)
          (run (.ofFiles file) (program :: "render" :: words)).stdout := by
  intro hall
  have hgroups : Grouped [.separate .name ","] ["--name", ","] := .cons (.separate .name ",") .nil
  have hcommand : Command.ofArguments ["sqlkit", "render", "--name", ","] = .ok (.render {}) := by
    decide +kernel
  have hrun : run commaSources ["sqlkit", "render", "--name", ","] =
      renderConfig {} commaConfig := run_eq_renderConfig hcommand rfl holds_commaConfig
  have hnone : (renderConfig {} commaConfig).error = none := by decide +kernel
  have hitems : ([OptionGroup.separate .name ","].filterMap OptionGroup.name?).flatMap Text.items =
      [] := by decide +kernel
  have honly : ShowsOnly false commaConfig _
      (run commaSources ["sqlkit", "render", "--name", ","]).stdout :=
    hall (fun _ => .ok commaText) "sqlkit" ["--name", ","] [.separate .name ","] {} commaText
      commaConfig hgroups (by decide) hcommand rfl holds_commaConfig (hrun ▸ hnone)
  obtain ⟨lines, hshown, hstdout⟩ := renderConfig_shown hnone
  rw [hrun, hstdout, hitems] at honly
  exact not_showsOnly_nil (by decide) hshown honly

/-! ## One statement alone -/

theorem filter_eq_singleton_of_nodup {α β : Type} [DecidableEq β] (f : α → β) {items : List α}
    {item : α} (hnodup : (items.map f).Nodup) (hin : item ∈ items) :
    (items.filter fun other => f other = f item) = [item] := by
  induction items with
  | nil => cases hin
  | cons first rest ih =>
      rw [List.map_cons, List.nodup_cons] at hnodup
      obtain ⟨hfresh, hrest⟩ := hnodup
      rcases List.mem_cons.mp hin with rfl | hlater
      · have hothers : ∀ other ∈ rest, ¬ f other = f item := by
          intro other hother hsame
          exact hfresh (hsame ▸ List.mem_map_of_mem hother)
        rw [List.filter_cons, if_pos (by simp), List.filter_eq_nil_iff.mpr (by simpa using hothers)]
      · have hne : ¬ f first = f item := by
          intro hsame
          exact hfresh (hsame ▸ List.mem_map_of_mem hlater)
        rw [List.filter_cons, if_neg (by simpa using hne), ih hrest hlater]

namespace Config

variable {config : Config} {statement : NamedStatement}

theorem selected_name (hnames : (config.statements.map NamedStatement.name).Nodup)
    (hin : statement ∈ config.statements) : config.selected [statement.name] = [statement] := by
  have halone := filter_eq_singleton_of_nodup NamedStatement.name hnames hin
  simpa [selected] using halone

theorem render_name (hnames : (config.statements.map NamedStatement.name).Nodup)
    (hin : statement ∈ config.statements) :
    config.render [statement.name] =
      (statement.buildNamed.map fun sql => [(statement.name, sql)]).mapError .statement := by
  have hknown : config.unknownName? [statement.name] = none := by
    rw [unknownName?_eq_none_iff]
    intro name hname
    exact ⟨statement, hin, (List.mem_singleton.mp hname).symm⟩
  simp only [render, hknown, selected_name hnames hin, buildAll]
  cases statement.buildNamed <;> rfl

end Config

theorem mem_items_of_ofArguments {arguments : List String} {options : RenderOptions}
    (hcommand : Command.ofArguments arguments = .ok (.render options)) {name : String}
    (hname : name ∈ options.names) : Text.IsItem name := by
  obtain ⟨program, words, groups, rfl, -, rfl⟩ :=
    (Command.ofArguments_eq_render_iff arguments options).mp hcommand
  rw [OptionGroup.foldl_apply_names] at hname
  obtain ⟨group, -, hitem⟩ := List.mem_flatMap.mp (by simpa using hname)
  cases group with
  | switch switched => cases hitem
  | separate option value =>
      cases option with
      | config => cases hitem
      | name => exact Text.isItem_of_mem_items hitem
  | attached option value =>
      cases option with
      | config => cases hitem
      | name => exact Text.isItem_of_mem_items hitem

theorem ofArguments_name {name : String} (hname : Text.IsItem name) :
    Command.ofArguments ["sqlkit", "render", "--name", name] =
      .ok (.render { names := [name] }) := by
  have hgroups : Grouped [.separate .name name] ["--name", name] :=
    .cons (.separate .name name) .nil
  rw [Command.ofArguments_eq_render_iff]
  refine ⟨_, _, _, rfl, hgroups, ?_⟩
  simp [OptionGroup.apply, RenderOptions.assign, Text.items_of_isItem hname]

/--
A statement can be chosen alone if its name has no comma and no blank at either
end. Any other name is given by no arguments.
-/
theorem named_alone_or_never_named {readDocument : DocumentReader} {text : String}
    {config : Config} (hholds : Config.Holds readDocument text config) {statement : NamedStatement}
    (hin : statement ∈ config.statements) :
    (',' ∉ statement.name.toList ∧ Text.Trimmed statement.name.toList →
      ∃ arguments options, Command.ofArguments arguments = .ok (.render options) ∧
        options.names = [statement.name] ∧ config.selected options.names = [statement] ∧
        config.render options.names =
          (statement.buildNamed.map fun sql => [(statement.name, sql)]).mapError .statement) ∧
    (¬ (',' ∉ statement.name.toList ∧ Text.Trimmed statement.name.toList) →
      ∀ arguments options, Command.ofArguments arguments = .ok (.render options) →
        statement.name ∉ options.names) := by
  obtain ⟨-, -, -, hrules⟩ := hholds
  have haccepted := config.broken?_eq_none_iff.mp hrules
  constructor
  · intro h
    obtain ⟨hcomma, htrimmed⟩ := h
    -- An accepted name is not blank all over, hence not empty.
    have hnonempty : statement.name ≠ "" := by
      intro hempty
      obtain ⟨c, hc, -⟩ := (haccepted.statements statement hin).name
      simp [hempty] at hc
    exact ⟨_, _, ofArguments_name ⟨hnonempty, hcomma, htrimmed⟩, rfl,
      Config.selected_name haccepted.names hin, Config.render_name haccepted.names hin⟩
  · intro hother arguments options hcommand hname
    have hitem := mem_items_of_ofArguments hcommand hname
    exact hother ⟨hitem.comma, hitem.trimmed⟩

theorem named_alone_or_never_named_all :
    Config.Holds Toml.readDocument commaText commaConfig ∧
    { name := "all", kind := .select, table := "t", columns := some ["x"] } ∈
      commaConfig.statements ∧
    (',' ∉ "all".toList ∧ Text.Trimmed "all".toList →
      ∃ arguments options, Command.ofArguments arguments = .ok (.render options) ∧
        options.names = ["all"] ∧
        commaConfig.selected options.names =
          [{ name := "all", kind := .select, table := "t", columns := some ["x"] }] ∧
        commaConfig.render options.names =
          ((NamedStatement.buildNamed
            { name := "all", kind := .select, table := "t", columns := some ["x"] }).map
              fun sql => [("all", sql)]).mapError .statement) ∧
    (¬ (',' ∉ "all".toList ∧ Text.Trimmed "all".toList) →
      ∀ arguments options, Command.ofArguments arguments = .ok (.render options) →
        "all" ∉ options.names) := by
  have hin : { name := "all", kind := .select, table := "t", columns := some ["x"] } ∈
      commaConfig.statements := List.mem_cons_self
  exact ⟨holds_commaConfig, hin, named_alone_or_never_named holds_commaConfig hin⟩

/-- A statement whose name holds a comma cannot be chosen. -/
theorem not_forall_named_alone :
    ¬ ∀ (text : String) (config : Config) (statement : NamedStatement),
      Config.Holds Toml.readDocument text config → statement ∈ config.statements →
        ∃ arguments options, Command.ofArguments arguments = .ok (.render options) ∧
          options.names = [statement.name] := by
  intro hall
  have hin : { name := "a,b", kind := .select, table := "t", columns := some ["y"] } ∈
      commaConfig.statements := List.mem_cons_of_mem _ List.mem_cons_self
  obtain ⟨arguments, options, hcommand, hnames⟩ := hall _ _ _ holds_commaConfig hin
  have hitem : Text.IsItem "a,b" :=
    mem_items_of_ofArguments hcommand (hnames ▸ List.mem_singleton_self _)
  exact hitem.comma (by decide)

end SqlStatement
