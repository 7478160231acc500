import SqlStatement.Proofs.ItemLists
import SqlStatement.Proofs.OptionGroups

/-! # Where the reading of options ends

The words behind the command are groups of options, and behind the groups stands what
ends the reading: nothing, a word for help, an option without its value, or a word that
is no option. There is one way only to take words apart like this, and the command
follows from the groups and from what ends them.
-/

namespace SqlStatement

/-! ## What groups say together -/

namespace OptionGroup

def config? : OptionGroup → Option String
  | separate .config value => some value
  | attached .config value => some (ValueOption.config.bare value)
  | _ => none

theorem apply_config (options : RenderOptions) (group : OptionGroup) :
    (apply options group).config = group.config?.getD options.config := by
  cases group with
  | switch switched => cases switched <;> rfl
  | separate option value => cases option <;> rfl
  | attached option value => cases option <;> rfl

theorem isOn_apply (switch : Switch) (options : RenderOptions) (group : OptionGroup) :
    switch.isOn (apply options group) =
      (switch.isOn options || decide (group = .switch switch)) := by
  cases group with
  | switch switched => cases switch <;> cases switched <;> simp [apply, Switch.on, Switch.isOn]
  | separate option value =>
      cases switch <;> cases option <;> simp [apply, RenderOptions.assign, Switch.isOn]
  | attached option value =>
      cases switch <;> cases option <;> simp [apply, RenderOptions.assign, Switch.isOn]

/-- The last configuration counts. -/
theorem foldl_apply_config (options : RenderOptions) (groups : List OptionGroup) :
    (groups.foldl apply options).config =
      (groups.filterMap config?).getLast?.getD options.config := by
  induction groups generalizing options with
  | nil => rfl
  | cons group rest ih =>
      rw [List.foldl_cons, ih, apply_config, List.filterMap_cons]
      cases group.config? with
      | none => rfl
      | some config => rw [List.getLast?_cons, Option.getD_some, Option.getD_some]

theorem isOn_foldl_apply (switch : Switch) (options : RenderOptions)
    (groups : List OptionGroup) :
    switch.isOn (groups.foldl apply options) =
      (switch.isOn options || decide (OptionGroup.switch switch ∈ groups)) := by
  induction groups generalizing options with
  | nil => simp
  | cons group rest ih =>
      rw [List.foldl_cons, ih, isOn_apply, Bool.or_assoc]
      simp [eq_comm]

end OptionGroup

theorem RenderOptions.eq_of_fields {options other : RenderOptions}
    (hconfig : options.config = other.config) (hnames : options.names = other.names)
    (hswitches : ∀ switch : Switch, switch.isOn options = switch.isOn other) :
    options = other := by
  have hjson : options.json = other.json := hswitches .json
  have hverbose : options.verbose = other.verbose := hswitches .verbose
  cases options
  cases other
  cases hconfig
  cases hnames
  cases hjson
  cases hverbose
  rfl

def RenderOptions.ofGroups (groups : List OptionGroup) : RenderOptions where
  config := (groups.filterMap OptionGroup.config?).getLast?.getD "sqlkit.toml"
  names := groups.flatMap OptionGroup.items
  json := OptionGroup.switch .json ∈ groups
  verbose := OptionGroup.switch .verbose ∈ groups

theorem OptionGroup.foldl_apply_eq_ofGroups (groups : List OptionGroup) :
    groups.foldl apply {} = RenderOptions.ofGroups groups := by
  apply RenderOptions.eq_of_fields
  · exact foldl_apply_config {} groups
  · exact foldl_apply_names {} groups
  · intro switch
    rw [isOn_foldl_apply]
    cases switch <;> rfl

/-! ## What ends the groups -/

inductive Ending where
  | nothing
  | help
  | missing (option : ValueOption)
  | unknown (word : String)
  deriving DecidableEq

namespace Ending

/-- The words from the end of the groups on.  A word is unknown if no option is written so. -/
inductive Stands : Ending → List String → Prop
  | nothing : Stands .nothing []
  | help {word} (hword : word = "-h" ∨ word = "--help") (rest : List String) :
      Stands .help (word :: rest)
  | missing (option : ValueOption) : Stands (.missing option) [option.flag]
  | unknown {word} (hword : ∀ read, ¬ OptionWord.Written read word) (rest : List String) :
      Stands (.unknown word) (word :: rest)

def result (options : RenderOptions) : Ending → Except ArgumentError Command
  | nothing => .ok (.render options)
  | help => .ok (.help .render)
  | missing option => .error (.missingValue option)
  | unknown word => .error (.unknownArgument word)

/-- The command, or what is said in its place. -/
def told (options : RenderOptions) : Ending → Except String Command
  | nothing => .ok (.render options)
  | help => .ok (.help .render)
  | missing option => .error (option.flag ++ " requires a value")
  | unknown word => .error ("unknown argument: " ++ word)

theorem mapError_result (ending : Ending) (options : RenderOptions) :
    (ending.result options).mapError ArgumentError.message = ending.told options := by
  cases ending <;> rfl

end Ending

/-- Words taken apart into groups and what ends them. -/
def Divided (words : List String) (groups : List OptionGroup) (ending : Ending) : Prop :=
  ∃ front rest, words = front ++ rest ∧ Grouped groups front ∧ ending.Stands rest

/-! ## Words that end the groups -/

namespace OptionWord

theorem written_help_iff (word : String) :
    Written .help word ↔ word = "-h" ∨ word = "--help" := by
  constructor
  · intro h
    cases h with
    | shortHelp => exact Or.inl rfl
    | longHelp => exact Or.inr rfl
  · rintro (rfl | rfl)
    · exact .shortHelp
    · exact .longHelp

theorem ofWord_eq_unknown_iff (word : String) :
    ofWord word = .unknown ↔ ∀ read, ¬ Written read word := by
  constructor
  · intro h read hwritten
    have hread := ofWord_of_written hwritten
    rw [h] at hread
    subst hread
    cases hwritten
  · intro h
    exact (written_or_unknown word).resolve_left (h _)

end OptionWord

namespace Ending

variable {ending other : Ending} {words : List String}

theorem Stands.read_eq (h : ending.Stands words) (options : RenderOptions) :
    RenderOptions.read options words = ending.result options := by
  cases h with
  | nothing => rfl
  | help hword rest =>
      have hhelp := OptionWord.ofWord_of_written ((OptionWord.written_help_iff _).mpr hword)
      exact RenderOptions.read_help hhelp options rest
  | missing option =>
      have hflag := OptionWord.ofWord_of_written (.awaiting option)
      exact RenderOptions.read_awaiting_nil hflag options
  | unknown hword rest =>
      have hunknown := (OptionWord.ofWord_eq_unknown_iff _).mpr hword
      exact RenderOptions.read_unknown hunknown options rest

/-- What the first word is read as. -/
theorem Stands.word_cons {word : String} (h : ending.Stands (word :: words)) :
    OptionWord.ofWord word = .help ∨ OptionWord.ofWord word = .unknown ∨
      ∃ option, OptionWord.ofWord word = .awaiting option ∧ words = [] := by
  cases h with
  | help hword rest =>
      exact Or.inl (OptionWord.ofWord_of_written ((OptionWord.written_help_iff _).mpr hword))
  | missing option =>
      exact Or.inr (Or.inr ⟨option, OptionWord.ofWord_of_written (.awaiting option), rfl⟩)
  | unknown hword rest =>
      exact Or.inr (Or.inl ((OptionWord.ofWord_eq_unknown_iff _).mpr hword))

theorem result_injective {options : RenderOptions}
    (h : ending.result options = other.result options) : ending = other := by
  cases ending <;> cases other <;> simp_all [result]

theorem Stands.unique (h : ending.Stands words) (h' : other.Stands words) : ending = other := by
  have hread := h.read_eq {}
  rw [h'.read_eq] at hread
  exact (result_injective hread).symm

end Ending

/-! ## One way to take words apart -/

namespace OptionGroup

def opening : OptionGroup → OptionWord
  | switch switched => switched.word
  | separate option _ => .awaiting option
  | attached option value => .assigned option (option.bare value)

variable {group other : OptionGroup} {words words' rest rest' : List String}

theorem Spelled.exists_cons (h : group.Spelled words) :
    ∃ word tail, words = word :: tail ∧ OptionWord.ofWord word = group.opening := by
  cases h with
  | switch hword => exact ⟨_, _, rfl, OptionWord.ofWord_of_written hword⟩
  | separate option value => exact ⟨_, _, rfl, OptionWord.ofWord_of_written (.awaiting option)⟩
  | attached option value =>
      exact ⟨_, _, rfl, OptionWord.ofWord_of_written (.assigned option value)⟩

theorem Spelled.unique (h : group.Spelled words) (h' : other.Spelled words')
    (hsame : words ++ rest = words' ++ rest') : group = other ∧ rest = rest' := by
  have hopening : group.opening = other.opening := by
    obtain ⟨word, tail, rfl, hword⟩ := h.exists_cons
    obtain ⟨word', tail', rfl, hword'⟩ := h'.exists_cons
    rw [← hword, ← hword', (List.cons.inj hsame).1]
  cases h with
  | @switch switched word hword =>
      cases h' with
      | @switch switched' word' hword' =>
          cases switched <;> cases switched' <;> simp_all [opening, Switch.word]
      | separate option value => cases switched <;> cases hopening
      | attached option value => cases switched <;> cases hopening
  | separate option value =>
      cases h' with
      | @switch switched word hword => cases switched <;> cases hopening
      | separate option' value' =>
          cases hopening
          simpa using hsame
      | attached option' value' => cases hopening
  | attached option value =>
      cases h' with
      | @switch switched word hword => cases switched <;> cases hopening
      | separate option' value' => cases hopening
      | attached option' value' =>
          obtain rfl : option = option' := (OptionWord.assigned.inj hopening).1
          obtain ⟨hword, hrest⟩ := List.cons.inj hsame
          have hvalue : value = value' := by
            rw [← String.toList_inj, ValueOption.toList_attach, ValueOption.toList_attach] at hword
            exact String.toList_inj.mp (List.append_cancel_left hword)
          exact ⟨by rw [hvalue], hrest⟩

theorem Spelled.not_stands (h : group.Spelled words) (ending : Ending) :
    ¬ ending.Stands (words ++ rest) := by
  intro hending
  cases h with
  | @switch switched word hword =>
      rcases hending.word_cons with hread | hread | ⟨option, hread, -⟩
      all_goals
        rw [OptionWord.ofWord_of_written hword] at hread
        cases switched <;> cases hread
  | separate option value =>
      rcases hending.word_cons with hread | hread | ⟨other, -, hrest⟩
      · cases (OptionWord.ofWord_of_written (.awaiting option)).symm.trans hread
      · cases (OptionWord.ofWord_of_written (.awaiting option)).symm.trans hread
      · cases hrest
  | attached option value =>
      rcases hending.word_cons with hread | hread | ⟨other, hread, -⟩
      all_goals
        cases (OptionWord.ofWord_of_written (.assigned option value)).symm.trans hread

end OptionGroup

/-! ## Words taken apart -/

namespace Divided

variable {words : List String} {groups : List OptionGroup} {ending : Ending}

theorem of_stands (h : ending.Stands words) : Divided words [] ending :=
  ⟨[], words, rfl, .nil, h⟩

theorem cons {group : OptionGroup} {front : List String} (hgroup : group.Spelled front)
    (h : Divided words groups ending) : Divided (front ++ words) (group :: groups) ending := by
  obtain ⟨others, rest, rfl, hgroups, hending⟩ := h
  exact ⟨front ++ others, rest, (List.append_assoc _ _ _).symm, .cons hgroup hgroups, hending⟩

theorem read_eq (h : Divided words groups ending) (options : RenderOptions) :
    RenderOptions.read options words =
      ending.result (groups.foldl OptionGroup.apply options) := by
  obtain ⟨front, rest, rfl, hgroups, hending⟩ := h
  rw [hgroups.read_append, hending.read_eq]

theorem unique {groups' : List OptionGroup} {ending' : Ending} (h : Divided words groups ending)
    (h' : Divided words groups' ending') : groups = groups' ∧ ending = ending' := by
  obtain ⟨front, rest, rfl, hgroups, hending⟩ := h
  obtain ⟨front', rest', hwords, hgroups', hending'⟩ := h'
  induction hgroups generalizing groups' front' with
  | nil =>
      cases hgroups' with
      | nil =>
          obtain rfl : rest = rest' := hwords
          exact ⟨rfl, hending.unique hending'⟩
      | cons hgroup' hothers' =>
          rw [List.nil_append, List.append_assoc] at hwords
          rw [hwords] at hending
          exact absurd hending (hgroup'.not_stands _)
  | cons hgroup hothers ih =>
      rw [List.append_assoc] at hwords
      cases hgroups' with
      | nil =>
          rw [List.nil_append] at hwords
          rw [← hwords] at hending'
          exact absurd hending' (hgroup.not_stands _)
      | cons hgroup' hothers' =>
          rw [List.append_assoc] at hwords
          obtain ⟨rfl, hrest⟩ := hgroup.unique hgroup' hwords
          obtain ⟨rfl, hsame⟩ := ih _ hrest hothers'
          exact ⟨rfl, hsame⟩

/-- All words can be taken apart: by the reading itself, one case for each kind of word. -/
theorem exists_of_words (words : List String) : ∃ groups ending, Divided words groups ending := by
  have hread : ∀ options : RenderOptions, ∃ groups ending, Divided words groups ending := by
    intro options
    fun_induction RenderOptions.read options words with
    | case1 options => exact ⟨_, _, of_stands .nothing⟩
    | case2 options word rest hword =>
        have hhelp := OptionWord.written_of_ofWord hword (by decide)
        exact ⟨_, _, of_stands (.help ((OptionWord.written_help_iff word).mp hhelp) rest)⟩
    | case3 options word rest hword ih =>
        obtain ⟨groups, ending, hrest⟩ := ih
        have hjson : OptionWord.Written Switch.json.word word :=
          OptionWord.written_of_ofWord hword (by decide)
        exact ⟨_, _, cons (.switch hjson) hrest⟩
    | case4 options word rest hword ih =>
        obtain ⟨groups, ending, hrest⟩ := ih
        have hverbose : OptionWord.Written Switch.verbose.word word :=
          OptionWord.written_of_ofWord hword (by decide)
        exact ⟨_, _, cons (.switch hverbose) hrest⟩
    | case5 options word rest option value hword ih =>
        obtain ⟨groups, ending, hrest⟩ := ih
        cases OptionWord.written_of_ofWord hword (by simp) with
        | assigned _ value => exact ⟨_, _, cons (.attached option value) hrest⟩
    | case6 options word option hword =>
        cases OptionWord.written_of_ofWord hword (by simp) with
        | awaiting => exact ⟨_, _, of_stands (.missing option)⟩
    | case7 options word option hword value rest ih =>
        obtain ⟨groups, ending, hrest⟩ := ih
        cases OptionWord.written_of_ofWord hword (by simp) with
        | awaiting => exact ⟨_, _, cons (.separate option value) hrest⟩
    | case8 options word rest hword =>
        have hunknown := (OptionWord.ofWord_eq_unknown_iff word).mp hword
        exact ⟨_, _, of_stands (.unknown hunknown rest)⟩
  exact hread {}

theorem nothing_iff : Divided words groups .nothing ↔ Grouped groups words := by
  constructor
  · rintro ⟨front, rest, rfl, hgroups, hnothing⟩
    cases hnothing
    rwa [List.append_nil]
  · intro h
    exact ⟨words, [], (List.append_nil words).symm, h, .nothing⟩

end Divided

/-! ## What is read -/

/-- Options are read from words in groups, and from no other words. -/
theorem RenderOptions.read_eq_render_iff (options result : RenderOptions) (words : List String) :
    read options words = .ok (.render result) ↔
      ∃ groups, Grouped groups words ∧ groups.foldl OptionGroup.apply options = result := by
  constructor
  · intro h
    obtain ⟨groups, ending, hdivided⟩ := Divided.exists_of_words words
    rw [hdivided.read_eq] at h
    cases ending with
    | nothing =>
        have hresult := Command.render.inj (Except.ok.inj h)
        exact ⟨groups, Divided.nothing_iff.mp hdivided, hresult⟩
    | _ => cases h
  · rintro ⟨groups, hgroups, rfl⟩
    exact (Divided.nothing_iff.mpr hgroups).read_eq options

theorem Command.ofArguments_eq_render_iff (arguments : List String) (options : RenderOptions) :
    ofArguments arguments = .ok (.render options) ↔
      ∃ program words groups, arguments = program :: "render" :: words ∧
        Grouped groups words ∧ groups.foldl OptionGroup.apply {} = options := by
  constructor
  · intro h
    match arguments with
    | [] => cases h
    | [program] => cases h
    | program :: word :: words =>
        by_cases hword : word = "render"
        · subst hword
          rw [ofArguments_render, RenderOptions.read_eq_render_iff] at h
          obtain ⟨groups, hgroups, hoptions⟩ := h
          exact ⟨program, words, groups, rfl, hgroups, hoptions⟩
        · simp only [ofArguments, List.drop_one, List.tail_cons, if_neg hword] at h
          split at h <;> cases h
  · intro h
    obtain ⟨program, words, groups, rfl, hgroups, hoptions⟩ := h
    rw [ofArguments_render, RenderOptions.read_eq_render_iff]
    exact ⟨groups, hgroups, hoptions⟩

/--
The words behind the command are groups and an ending in one way only, and these decide
the command.  A value that is attached to its option stands behind all copies of the lead.
The names in a value are the items of which it is a list, whatever blanks stand around them.
-/
theorem Command.ofArguments_divided (program : String) (words : List String) :
    ∃ groups ending,
      Divided words groups ending ∧
      (∀ others other, Divided words others other → others = groups ∧ other = ending) ∧
      ofArguments (program :: "render" :: words) =
        ending.result (RenderOptions.ofGroups groups) ∧
      (ofArguments (program :: "render" :: words)).mapError ArgumentError.message =
        ending.told (RenderOptions.ofGroups groups) ∧
      (∀ option value, OptionGroup.attached option value ∈ groups →
        (∃ copies, (option.attach value).toList =
          (List.replicate (copies + 1) option.lead).flatten ++ (option.bare value).toList) ∧
        ¬ option.lead <+: (option.bare value).toList) ∧
      ∀ value names, Text.items value = names ↔
        (∀ name ∈ names, Text.IsItem name) ∧
          ∃ pieces, value = ",".intercalate pieces ∧ Text.Padded pieces names := by
  obtain ⟨groups, ending, hdivided⟩ := Divided.exists_of_words words
  have hresult : ofArguments (program :: "render" :: words) =
      ending.result (RenderOptions.ofGroups groups) := by
    rw [ofArguments_render, hdivided.read_eq, OptionGroup.foldl_apply_eq_ofGroups]
  refine ⟨groups, ending, hdivided, ?_, hresult, ?_, ?_, Text.items_eq_iff⟩
  · intro others other hother
    exact hother.unique hdivided
  · rw [hresult, Ending.mapError_result]
  · intro option value _
    exact option.attach_spec value

example : Command.ofArguments ["sqlkit", "render", "--name", "-h", "--json", "--config"] =
    .error (.missingValue .config) := by
  rfl

end SqlStatement
