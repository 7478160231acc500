import SqlStatement.Proofs.Endings
import SqlStatement.Proofs.JsonLines

/-! # Runs that say more

The option to say more may be put in wherever an option can begin, as often as one
likes. The run then ends as it did before: with the same output, or with the same
error. All that the option adds is one line about the configuration, and that line is
written as soon as the configuration is loaded, whether rendering succeeds or not.
-/

namespace SqlStatement

/-! ## Words put in -/

def AsksVerbose (word : String) : Prop :=
  word = "-v" ∨ word = "--verbose"

/-- The word asks for help, or it is no option. -/
def EndsReading (word : String) : Prop :=
  (word = "-h" ∨ word = "--help") ∨ ∀ read, ¬ OptionWord.Written read word

/-- The same words, with words that ask for more put in anywhere. -/
inductive Inserted : List String → List String → Prop
  | nil : Inserted [] []
  | keep {words more} (word : String) (h : Inserted words more) :
      Inserted (word :: words) (word :: more)
  | insert {word words more} (hword : AsksVerbose word) (h : Inserted words more) :
      Inserted words (word :: more)

/--
The same words, with words that ask for more put in where an option can begin: not
between an option and the value behind it, and not behind an option that lacks its
value. Behind a word at which reading ends there is no option any more, and words may
be put in anywhere.
-/
inductive InsertedBetween : List String → List String → Prop
  | nil : InsertedBetween [] []
  | insert {word words more} (hword : AsksVerbose word) (h : InsertedBetween words more) :
      InsertedBetween words (word :: more)
  | word {word words more} (hword : ∀ option : ValueOption, word ≠ option.flag)
      (h : InsertedBetween words more) : InsertedBetween (word :: words) (word :: more)
  | value {words more} (option : ValueOption) (value : String)
      (h : InsertedBetween words more) :
      InsertedBetween (option.flag :: value :: words) (option.flag :: value :: more)
  | missing (option : ValueOption) : InsertedBetween [option.flag] [option.flag]
  | ended {word words more} (hword : EndsReading word) (h : Inserted words more) :
      InsertedBetween (word :: words) (word :: more)

theorem AsksVerbose.ofWord_eq {word : String} (h : AsksVerbose word) :
    OptionWord.ofWord word = Switch.verbose.word := by
  rcases h with rfl | rfl
  · exact OptionWord.ofWord_of_written .shortVerbose
  · exact OptionWord.ofWord_of_written .longVerbose

/-! ## What is read -/

/-- The two are read as the same command, if one does not look at how much is to be said. -/
def SameCommand (one other : Except ArgumentError Command) : Prop :=
  one.map Switch.verbose.offCommand = other.map Switch.verbose.offCommand

theorem sameCommand_read_on (options : RenderOptions) (words : List String) :
    SameCommand (RenderOptions.read (Switch.verbose.on options) words)
      (RenderOptions.read options words) := by
  unfold SameCommand
  rw [← Switch.verbose.read_without, ← Switch.verbose.read_without, Switch.off_on_self]

/-- What stands behind a word at which reading ends is not read. -/
theorem EndsReading.read_cons {word : String} (h : EndsReading word) (options : RenderOptions)
    (words more : List String) :
    RenderOptions.read options (word :: more) = RenderOptions.read options (word :: words) := by
  rcases h with hhelp | hunknown
  · have hread := OptionWord.ofWord_of_written ((OptionWord.written_help_iff word).mpr hhelp)
    rw [RenderOptions.read_help hread, RenderOptions.read_help hread]
  · have hread := (OptionWord.ofWord_eq_unknown_iff word).mpr hunknown
    rw [RenderOptions.read_unknown hread, RenderOptions.read_unknown hread]

theorem sameCommand_cons {word : String} {words more : List String}
    (hword : ∀ option : ValueOption, word ≠ option.flag)
    (h : ∀ options, SameCommand (RenderOptions.read options more)
      (RenderOptions.read options words)) (options : RenderOptions) :
    SameCommand (RenderOptions.read options (word :: more))
      (RenderOptions.read options (word :: words)) := by
  cases hread : OptionWord.ofWord word with
  | help =>
      rw [RenderOptions.read_help hread, RenderOptions.read_help hread]
      rfl
  | json =>
      have hjson : OptionWord.ofWord word = Switch.json.word := hread
      rw [RenderOptions.read_switch hjson, RenderOptions.read_switch hjson]
      exact h _
  | verbose =>
      have hverbose : OptionWord.ofWord word = Switch.verbose.word := hread
      rw [RenderOptions.read_switch hverbose, RenderOptions.read_switch hverbose]
      exact h _
  | awaiting option =>
      cases OptionWord.written_of_ofWord hread (by simp) with
      | awaiting => exact absurd rfl (hword option)
  | assigned option value =>
      rw [RenderOptions.read_assigned hread, RenderOptions.read_assigned hread]
      exact h _
  | unknown =>
      rw [RenderOptions.read_unknown hread, RenderOptions.read_unknown hread]
      rfl

/-- Words put in between options change nothing in the command but how much is said. -/
theorem InsertedBetween.sameCommand {words more : List String} (h : InsertedBetween words more)
    (options : RenderOptions) :
    SameCommand (RenderOptions.read options more) (RenderOptions.read options words) := by
  induction h generalizing options with
  | nil => rfl
  | insert hword h ih =>
      rw [RenderOptions.read_switch hword.ofWord_eq]
      exact (ih _).trans (sameCommand_read_on options _)
  | word hword h ih => exact sameCommand_cons hword ih options
  | value option value h ih =>
      have hread := OptionWord.ofWord_of_written (.awaiting option)
      rw [RenderOptions.read_awaiting_cons hread, RenderOptions.read_awaiting_cons hread]
      exact ih _
  | missing option => rfl
  | ended hword h => rw [SameCommand, hword.read_cons]

/-! ## Two runs -/

/-- The runs show the same and end alike. -/
structure SameEnd (one other : Outcome) : Prop where
  stdout : one.stdout = other.stdout
  error : one.error = other.error

theorem sameEnd_renderSource_off (readDocument : DocumentReader) (options : RenderOptions)
    (source : Except ReadError String) :
    SameEnd (renderSource readDocument (Switch.verbose.off options) source)
      (renderSource readDocument options source) := by
  have hnames : (Switch.verbose.off options).names = options.names := rfl
  have hjson : (Switch.verbose.off options).json = options.json := rfl
  unfold renderSource
  cases source with
  | error error => exact ⟨rfl, rfl⟩
  | ok text =>
      cases hload : Config.ofText readDocument text with
      | error error =>
          simp only [hload]
          exact ⟨rfl, rfl⟩
      | ok config =>
          simp only [hload, renderConfig, hnames, hjson]
          cases config.render options.names with
          | error error => exact ⟨rfl, rfl⟩
          | ok statements => exact ⟨rfl, rfl⟩

def concluded (sources : Sources) : Except ArgumentError Command → Outcome
  | .error error => { error := some (.arguments error) }
  | .ok (.help topic) => { stdout := topic.text }
  | .ok (.render options) => renderSource sources.document options (sources.file options.config)

theorem run_eq_concluded (sources : Sources) (program : String) (words : List String) :
    run sources (program :: "render" :: words) =
      concluded sources (RenderOptions.read {} words) := by
  rw [run_render]
  cases RenderOptions.read {} words with
  | error error => rfl
  | ok command => cases command <;> rfl

theorem sameEnd_concluded_off (sources : Sources) (asked : Except ArgumentError Command) :
    SameEnd (concluded sources (asked.map Switch.verbose.offCommand))
      (concluded sources asked) := by
  cases asked with
  | error error => exact ⟨rfl, rfl⟩
  | ok command =>
      cases command with
      | help topic => exact ⟨rfl, rfl⟩
      | render options => exact sameEnd_renderSource_off _ options _

theorem sameEnd_of_sameCommand {one other : Except ArgumentError Command}
    (h : SameCommand one other) (sources : Sources) :
    SameEnd (concluded sources one) (concluded sources other) := by
  have hone := sameEnd_concluded_off sources one
  have hother := sameEnd_concluded_off sources other
  rw [h] at hone
  exact ⟨hone.stdout.symm.trans hother.stdout, hone.error.symm.trans hother.error⟩

/-! ## The line about the configuration -/

/-- The words ask for a rendering, and the configuration that they name is loaded. -/
def Loads (sources : Sources) (words : List String) (path : String) (config : Config) : Prop :=
  ∃ groups text, Grouped groups words ∧ path = (RenderOptions.ofGroups groups).config ∧
    sources.file path = .ok text ∧ Config.Holds sources.document text config

theorem stderr_renderConfig (options : RenderOptions) (config : Config) :
    (renderConfig options config).stderr =
      if options.verbose then configLine options.config config else "" := by
  unfold renderConfig
  cases config.render options.names <;> rfl

section Source

variable {readDocument : DocumentReader} {options : RenderOptions}
  {source : Except ReadError String}

theorem stderr_renderSource_of_holds {text : String} {config : Config}
    (hconfig : Config.Holds readDocument text config) (options : RenderOptions) :
    (renderSource readDocument options (.ok text)).stderr =
      if options.verbose then configLine options.config config else "" := by
  have hload := (Config.ofText_eq_ok_iff readDocument text config).mpr hconfig
  simp only [renderSource, hload, stderr_renderConfig]

theorem stderr_renderSource_of_quiet (hquiet : options.verbose = false) :
    (renderSource readDocument options source).stderr = "" := by
  unfold renderSource
  cases source with
  | error error => rfl
  | ok text =>
      cases hload : Config.ofText readDocument text with
      | error error => simp only [hload]
      | ok config => simp only [hload, stderr_renderConfig, hquiet, Bool.false_eq_true, if_false]

/-- Without a configuration there is nothing to say. -/
theorem stderr_renderSource_of_not_holds
    (hnone : ∀ text config, source = .ok text → ¬ Config.Holds readDocument text config) :
    (renderSource readDocument options source).stderr = "" := by
  unfold renderSource
  cases source with
  | error error => rfl
  | ok text =>
      cases hload : Config.ofText readDocument text with
      | error error => simp only [hload]
      | ok config => exact absurd ((Config.ofText_eq_ok_iff _ _ _).mp hload) (hnone text config rfl)

end Source

section Divided

variable {sources : Sources} {words : List String} {groups : List OptionGroup} {ending : Ending}

theorem run_of_divided (h : Divided words groups ending) (sources : Sources) (program : String) :
    run sources (program :: "render" :: words) =
      concluded sources (ending.result (RenderOptions.ofGroups groups)) := by
  rw [run_eq_concluded, h.read_eq, OptionGroup.foldl_apply_eq_ofGroups]

theorem stderr_run_of_quiet (h : Divided words groups ending)
    (hquiet : OptionGroup.switch .verbose ∉ groups) (program : String) :
    (run sources (program :: "render" :: words)).stderr = "" := by
  rw [run_of_divided h]
  cases ending with
  | nothing =>
      have hverbose : (RenderOptions.ofGroups groups).verbose = false := decide_eq_false hquiet
      exact stderr_renderSource_of_quiet hverbose
  | help => rfl
  | missing option => rfl
  | unknown word => rfl

theorem stderr_run_of_loads (h : Divided words groups ending)
    (hloud : OptionGroup.switch .verbose ∈ groups) {path : String} {config : Config}
    (hloads : Loads sources words path config) (program : String) :
    (run sources (program :: "render" :: words)).stderr = configLine path config := by
  obtain ⟨others, text, hothers, rfl, hread, hconfig⟩ := hloads
  obtain ⟨rfl, rfl⟩ := h.unique (Divided.nothing_iff.mpr hothers)
  have hverbose : (RenderOptions.ofGroups groups).verbose = true := decide_eq_true hloud
  rw [run_of_divided h]
  show (renderSource sources.document (RenderOptions.ofGroups groups) (sources.file _)).stderr = _
  rw [hread, stderr_renderSource_of_holds hconfig, hverbose, if_pos rfl]

theorem stderr_run_of_not_loads (h : Divided words groups ending)
    (hnone : ∀ path config, ¬ Loads sources words path config) (program : String) :
    (run sources (program :: "render" :: words)).stderr = "" := by
  rw [run_of_divided h]
  cases ending with
  | nothing =>
      refine stderr_renderSource_of_not_holds fun text config hread hconfig => ?_
      exact hnone _ config ⟨groups, text, Divided.nothing_iff.mp h, rfl, hread, hconfig⟩
  | help => rfl
  | missing option => rfl
  | unknown word => rfl

end Divided

/--
Words that ask for more, put in between options, change neither the output nor the way a
run ends. Without such an option nothing is written beside the output; with one it is the
line about the configuration if a rendering is asked for and its configuration is loaded,
and nothing otherwise.
-/
theorem run_verbose_same_end (sources : Sources) (program : String) (words : List String) :
    (∀ more, InsertedBetween words more →
      (run sources (program :: "render" :: more)).stdout =
          (run sources (program :: "render" :: words)).stdout ∧
        (run sources (program :: "render" :: more)).error =
          (run sources (program :: "render" :: words)).error) ∧
    ∃ groups ending, Divided words groups ending ∧
      (OptionGroup.switch .verbose ∉ groups →
        (run sources (program :: "render" :: words)).stderr = "") ∧
      (OptionGroup.switch .verbose ∈ groups →
        (∀ path config, Loads sources words path config →
          (run sources (program :: "render" :: words)).stderr =
            "config: " ++ path ++ " (" ++ toString config.statements.length
              ++ " statements)\n") ∧
        ((∀ path config, ¬ Loads sources words path config) →
          (run sources (program :: "render" :: words)).stderr = "")) := by
  obtain ⟨groups, ending, hdivided⟩ := Divided.exists_of_words words
  refine ⟨fun more hmore => ?_, groups, ending, hdivided, fun hquiet => ?_,
    fun hloud => ⟨fun path config hloads => ?_, fun hnone => ?_⟩⟩
  · have hsame := sameEnd_of_sameCommand (hmore.sameCommand {}) sources
    rw [run_eq_concluded, run_eq_concluded]
    exact ⟨hsame.stdout, hsame.error⟩
  · exact stderr_run_of_quiet hdivided hquiet program
  · exact stderr_run_of_loads hdivided hloud hloads program
  · exact stderr_run_of_not_loads hdivided hnone program

-- Put in between an option and its value, the word is the value, and the value is left over.
example :
    Command.ofArguments ["sqlkit", "render", "--name", "-v", "a"] =
      .error (.unknownArgument "a") := by
  rfl

end SqlStatement
