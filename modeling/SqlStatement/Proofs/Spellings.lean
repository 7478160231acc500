import SqlStatement.Proofs.Endings
import SqlStatement.Proofs.Items

/-! # An option and its value in two words or in one

The value of an option can stand in the word behind it or in the same word, behind an
equals sign. In the same word it loses the copies of the option's lead at its front, in
the word behind it does not. For a value without such copies the same is read. For a
value with them something else is read whenever the value counts, and it does if the
words are options to their end and no other configuration follows a configuration.
-/

namespace SqlStatement

/-! ## Values with a copy of the lead -/

namespace ValueOption

variable {option : ValueOption} {value : String}

theorem exists_copies_of_lead (hlead : option.lead <+: value.toList) :
    ∃ copies, value.toList =
      option.lead ++ ((List.replicate copies option.lead).flatten ++
        (option.bare value).toList) := by
  obtain ⟨⟨copies, hcopies⟩, hbare⟩ := option.bare_spec value
  cases copies with
  | zero =>
      rw [List.replicate_zero, List.flatten_nil, List.nil_append] at hcopies
      rw [hcopies] at hlead
      exact absurd hlead hbare
  | succ copies =>
      refine ⟨copies, ?_⟩
      rw [hcopies, List.replicate_succ, List.flatten_cons, List.append_assoc]

theorem lead_marks_ne_nil (option : ValueOption) : option.lead.filter Text.isMark ≠ [] := by
  cases option <;> decide

/-- The items keep all marks, and the copies of the lead have marks that are then missing. -/
theorem items_bare_ne (hlead : option.lead <+: value.toList) :
    Text.items (option.bare value) ≠ Text.items value := by
  intro hitems
  have hmarks : (option.bare value).toList.filter Text.isMark =
      value.toList.filter Text.isMark := by
    rw [← Text.flatMap_items, ← Text.flatMap_items, hitems]
  obtain ⟨copies, hcopies⟩ := exists_copies_of_lead hlead
  rw [hcopies, List.filter_append, List.filter_append] at hmarks
  have hlength := congrArg List.length hmarks
  have hpos := List.length_pos_iff.mpr option.lead_marks_ne_nil
  simp only [List.length_append] at hlength
  omega

end ValueOption

/-! ## Values that count -/

/-- A value in front of these words is used: they are options to the end, and behind a
configuration there is no other one. -/
def ValueOption.Counts (option : ValueOption) (words : List String) : Prop :=
  ∃ groups, Grouped groups words ∧ (option = .config → ∀ group ∈ groups, group.config? = none)

namespace OptionGroup

variable {options : RenderOptions} {later : List OptionGroup}

theorem foldl_config_of_none (hnone : ∀ group ∈ later, group.config? = none) :
    (later.foldl apply options).config = options.config := by
  rw [foldl_apply_config, List.filterMap_eq_nil_iff.mpr hnone]
  rfl

/-- A configuration makes no difference in front of another one. -/
theorem foldl_assign_config (hsome : ∃ group ∈ later, group.config? ≠ none)
    (value value' : String) :
    later.foldl apply (options.assign .config value) =
      later.foldl apply (options.assign .config value') := by
  apply RenderOptions.eq_of_fields
  · have hconfigs : later.filterMap config? ≠ [] := by
      intro hnil
      obtain ⟨group, hgroup, hconfig⟩ := hsome
      exact hconfig (List.filterMap_eq_nil_iff.mp hnil group hgroup)
    rw [foldl_apply_config, foldl_apply_config, List.getLast?_eq_some_getLast hconfigs]
    rfl
  · rw [foldl_apply_names, foldl_apply_names]
    rfl
  · intro switch
    rw [isOn_foldl_apply, isOn_foldl_apply]
    cases switch <;> rfl

/-- A value that counts can be told from one without its lead. -/
theorem foldl_assign_bare_ne {option : ValueOption} {value : String}
    (hlead : option.lead <+: value.toList)
    (hcounts : option = .config → ∀ group ∈ later, group.config? = none) :
    later.foldl apply (options.assign option (option.bare value)) ≠
      later.foldl apply (options.assign option value) := by
  intro hsame
  cases option with
  | config =>
      have hconfig := congrArg RenderOptions.config hsame
      rw [foldl_config_of_none (hcounts rfl), foldl_config_of_none (hcounts rfl)] at hconfig
      exact (ValueOption.bare_eq_self_iff .config value).mp hconfig hlead
  | name =>
      have hnames := congrArg RenderOptions.names hsame
      rw [foldl_apply_names, foldl_apply_names] at hnames
      have hitems := List.append_cancel_left (List.append_cancel_right hnames)
      exact ValueOption.items_bare_ne hlead hitems

end OptionGroup

theorem Ending.result_congr {ending : Ending} {options other : RenderOptions}
    (h : ending = .nothing → options = other) : ending.result options = ending.result other := by
  cases ending with
  | nothing => rw [h rfl]
  | _ => rfl

/-- Reading goes on differently exactly if a copy of the lead goes from a value that counts. -/
theorem RenderOptions.read_assign_bare_iff (options : RenderOptions) (option : ValueOption)
    (value : String) (rest : List String) :
    read (options.assign option (option.bare value)) rest =
        read (options.assign option value) rest ↔
      (option.lead <+: value.toList → ¬ option.Counts rest) := by
  constructor
  · rintro hsame hlead ⟨later, hlater, hcounts⟩
    have hdivided := Divided.nothing_iff.mpr hlater
    rw [hdivided.read_eq, hdivided.read_eq] at hsame
    have hoptions := Command.render.inj (Except.ok.inj hsame)
    exact OptionGroup.foldl_assign_bare_ne hlead hcounts hoptions
  · intro h
    by_cases hlead : option.lead <+: value.toList
    · obtain ⟨later, ending, hdivided⟩ := Divided.exists_of_words rest
      rw [hdivided.read_eq, hdivided.read_eq]
      apply Ending.result_congr
      rintro rfl
      -- The words are options to the end, so only another configuration hides the value.
      have hhidden : ¬(option = .config → ∀ group ∈ later, group.config? = none) :=
        fun hcounts => h hlead ⟨later, Divided.nothing_iff.mp hdivided, hcounts⟩
      push Not at hhidden
      obtain ⟨rfl, hsome⟩ := hhidden
      exact OptionGroup.foldl_assign_config hsome _ _
    · rw [(option.bare_eq_self_iff value).mpr hlead]

/-! ## Both spellings -/

/-- Behind groups of options, the two spellings of a value are read alike if the value has no
copy of the lead in front or does not count, and only then. -/
theorem Command.attach_eq_separate_iff {groups : List OptionGroup} {front : List String}
    (hfront : Grouped groups front) (program : String) (option : ValueOption) (value : String)
    (rest : List String) :
    ofArguments (program :: "render" :: (front ++ option.attach value :: rest)) =
        ofArguments (program :: "render" ::
          (front ++ option.flag :: option.bare value :: rest)) ∧
      (ofArguments (program :: "render" :: (front ++ option.attach value :: rest)) =
          ofArguments (program :: "render" :: (front ++ option.flag :: value :: rest)) ↔
        (option.lead <+: value.toList → ¬ option.Counts rest)) := by
  have hattached := OptionWord.ofWord_of_written (.assigned option value)
  have hflag := OptionWord.ofWord_of_written (.awaiting option)
  have hread : ∀ written, ofArguments (program :: "render" ::
      (front ++ option.flag :: written :: rest)) =
        RenderOptions.read ((groups.foldl OptionGroup.apply {}).assign option written) rest := by
    intro written
    rw [ofArguments_render, hfront.read_append, RenderOptions.read_awaiting_cons hflag]
  rw [hread, hread, ofArguments_render, hfront.read_append,
    RenderOptions.read_assigned hattached]
  exact ⟨rfl, RenderOptions.read_assign_bare_iff _ option value rest⟩

/-- Behind another option and in front of one, a value with a copy of the lead counts. -/
theorem Command.attach_ne_separate_config :
    Grouped [.switch .json] ["--json"] ∧
    ofArguments ["sqlkit", "render", "--json", "--config=--config=x", "-v"] =
      ofArguments ["sqlkit", "render", "--json", "--config", "x", "-v"] ∧
    ofArguments ["sqlkit", "render", "--json", "--config=--config=x", "-v"] ≠
      ofArguments ["sqlkit", "render", "--json", "--config", "--config=x", "-v"] := by
  have hjson : OptionGroup.Spelled (.switch .json) ["--json"] := .switch OptionWord.Written.json
  have hverbose : OptionGroup.Spelled (.switch .verbose) ["-v"] :=
    .switch OptionWord.Written.shortVerbose
  have hfront : Grouped [.switch .json] ["--json"] := .cons hjson .nil
  have hrest : Grouped [.switch .verbose] ["-v"] := .cons hverbose .nil
  have hcounts : ValueOption.config.Counts ["-v"] :=
    ⟨_, hrest, fun _ => List.forall_mem_singleton.mpr rfl⟩
  have hlead : ValueOption.config.lead <+: "--config=x".toList := by decide
  have hattach : ValueOption.config.attach "--config=x" = "--config=--config=x" := by
    decide +kernel
  have hbare : ValueOption.config.bare "--config=x" = "x" := by decide +kernel
  have hread := attach_eq_separate_iff hfront "sqlkit" .config "--config=x" ["-v"]
  rw [hattach, hbare] at hread
  exact ⟨hfront, hread.1, fun hsame => hread.2.mp hsame hlead hcounts⟩

/-- The two spellings of a value are not always read alike. -/
theorem Command.not_forall_attach_eq_separate :
    ¬ ∀ (program : String) (groups : List OptionGroup) (front : List String)
      (option : ValueOption) (value : String) (rest : List String), Grouped groups front →
        ofArguments (program :: "render" :: (front ++ option.attach value :: rest)) =
          ofArguments (program :: "render" :: (front ++ option.flag :: value :: rest)) := by
  intro hall
  have hword : ValueOption.config.attach "--config=x" = "--config=--config=x" := by
    decide +kernel
  have hsame := hall "sqlkit" [] [] .config "--config=x" [] .nil
  rw [hword] at hsame
  have hattached : ofArguments ["sqlkit", "render", "--config=--config=x"] =
      .ok (.render { config := "x" }) := by rfl
  have hseparate : ofArguments ["sqlkit", "render", "--config", "--config=x"] =
      .ok (.render { config := "--config=x" }) := by rfl
  have hconfig : "x" = "--config=x" := by
    have hread := hattached.symm.trans (hsame.trans hseparate)
    exact congrArg RenderOptions.config (Command.render.inj (Except.ok.inj hread))
  exact absurd hconfig (by decide)

end SqlStatement
