import SqlStatement.Arguments

/-! # Options that are only switched on

An option without a value can be left out of the words. What is read is then the
same command with that option off, and the same error where reading fails. The
words that are values of other options stay, whatever they look like, and so does
everything behind the word at which reading ends.
-/

namespace SqlStatement

inductive Switch where
  | json
  | verbose
  deriving DecidableEq

namespace Switch

def word : Switch → OptionWord
  | json => .json
  | verbose => .verbose

def on (switch : Switch) (options : RenderOptions) : RenderOptions :=
  match switch with
  | json => { options with json := true }
  | verbose => { options with verbose := true }

def off (switch : Switch) (options : RenderOptions) : RenderOptions :=
  match switch with
  | json => { options with json := false }
  | verbose => { options with verbose := false }

def isOn (switch : Switch) (options : RenderOptions) : Bool :=
  match switch with
  | json => options.json
  | verbose => options.verbose

def offCommand (switch : Switch) : Command → Command
  | .help topic => .help topic
  | .render options => .render (switch.off options)

theorem on_eq_self {switch : Switch} {options : RenderOptions} (h : switch.isOn options = true) :
    switch.on options = options := by
  cases switch with
  | json =>
      have hjson : options.json = true := h
      simp only [on, ← hjson]
  | verbose =>
      have hverbose : options.verbose = true := h
      simp only [on, ← hverbose]

theorem off_eq_self {switch : Switch} {options : RenderOptions} (h : switch.isOn options = false) :
    switch.off options = options := by
  cases switch with
  | json =>
      have hjson : options.json = false := h
      simp only [off, ← hjson]
  | verbose =>
      have hverbose : options.verbose = false := h
      simp only [off, ← hverbose]

theorem off_on_self (switch : Switch) (options : RenderOptions) :
    switch.off (switch.on options) = switch.off options := by
  cases switch <;> rfl

theorem off_on_of_ne {switch other : Switch} (h : other ≠ switch) (options : RenderOptions) :
    switch.off (other.on options) = other.on (switch.off options) := by
  cases switch with
  | json =>
      cases other with
      | json => exact absurd rfl h
      | verbose => rfl
  | verbose =>
      cases other with
      | json => rfl
      | verbose => exact absurd rfl h

theorem off_assign (switch : Switch) (options : RenderOptions) (option : ValueOption)
    (value : String) :
    switch.off (options.assign option value) = (switch.off options).assign option value := by
  cases switch <;> cases option <;> rfl

end Switch

/-! ## Reading one word -/

namespace RenderOptions

variable {word : String}

theorem read_help (hword : OptionWord.ofWord word = .help) (options : RenderOptions)
    (rest : List String) : read options (word :: rest) = .ok (.help .render) := by
  rw [read.eq_def]
  simp only [hword]

theorem read_unknown (hword : OptionWord.ofWord word = .unknown) (options : RenderOptions)
    (rest : List String) : read options (word :: rest) = .error (.unknownArgument word) := by
  rw [read.eq_def]
  simp only [hword]

theorem read_switch {switch : Switch} (hword : OptionWord.ofWord word = switch.word)
    (options : RenderOptions) (rest : List String) :
    read options (word :: rest) = read (switch.on options) rest := by
  rw [read.eq_def]
  cases switch <;> simp only [hword, Switch.word, Switch.on]

theorem read_assigned {option : ValueOption} {value : String}
    (hword : OptionWord.ofWord word = .assigned option value) (options : RenderOptions)
    (rest : List String) :
    read options (word :: rest) = read (options.assign option value) rest := by
  rw [read.eq_def]
  simp only [hword]

theorem read_awaiting_nil {option : ValueOption}
    (hword : OptionWord.ofWord word = .awaiting option) (options : RenderOptions) :
    read options [word] = .error (.missingValue option) := by
  rw [read.eq_def]
  simp only [hword]

theorem read_awaiting_cons {option : ValueOption}
    (hword : OptionWord.ofWord word = .awaiting option) (options : RenderOptions)
    (value : String) (rest : List String) :
    read options (word :: value :: rest) = read (options.assign option value) rest := by
  rw [read.eq_def]
  simp only [hword]

end RenderOptions

/-- Behind the name of the command, the arguments are its options. -/
theorem Command.ofArguments_render (program : String) (words : List String) :
    Command.ofArguments (program :: "render" :: words) = RenderOptions.read {} words := by
  have hhelp : ¬("render" = "-h" ∨ "render" = "--help") := by decide
  unfold Command.ofArguments
  simp only [List.drop_one, List.tail_cons, if_neg hhelp, if_true]

/-! ## Leaving an option out -/

namespace Switch

def without (switch : Switch) : List String → List String
  | [] => []
  | word :: rest =>
      match OptionWord.ofWord word with
      | .help | .unknown => word :: rest
      | .awaiting _ =>
          match rest with
          | [] => [word]
          | value :: rest => word :: value :: switch.without rest
      | read => if read = switch.word then switch.without rest else word :: switch.without rest

theorem read_without_of_switch (switch other : Switch) {options : RenderOptions} {word : String}
    {rest : List String} (hword : OptionWord.ofWord word = other.word)
    (ih : RenderOptions.read (switch.off (other.on options)) (switch.without rest) =
      (RenderOptions.read (other.on options) rest).map switch.offCommand) :
    RenderOptions.read (switch.off options) (switch.without (word :: rest)) =
      (RenderOptions.read (other.on options) rest).map switch.offCommand := by
  have hwithout : switch.without (word :: rest) =
      if other = switch then switch.without rest else word :: switch.without rest := by
    rw [without.eq_def]
    cases other <;> cases switch <;> simp [hword, Switch.word]
  rw [← ih, hwithout]
  by_cases hsame : other = switch
  · rw [if_pos hsame, hsame, off_on_self]
  · rw [if_neg hsame, RenderOptions.read_switch hword, off_on_of_ne hsame]

/-- Without the option the same is read, with the option off. -/
theorem read_without (switch : Switch) (options : RenderOptions) (words : List String) :
    RenderOptions.read (switch.off options) (switch.without words) =
      (RenderOptions.read options words).map switch.offCommand := by
  fun_induction RenderOptions.read options words with
  | case1 options => rfl
  | case2 options word rest hword =>
      have hwithout : switch.without (word :: rest) = word :: rest := by
        rw [without.eq_def]
        simp only [hword]
      rw [hwithout, RenderOptions.read_help hword]
      rfl
  | case3 options word rest hword ih => exact read_without_of_switch switch json hword ih
  | case4 options word rest hword ih => exact read_without_of_switch switch verbose hword ih
  | case5 options word rest option value hword ih =>
      have hwithout : switch.without (word :: rest) = word :: switch.without rest := by
        rw [without.eq_def]
        cases switch <;> simp [hword, Switch.word]
      rw [← ih, off_assign, hwithout, RenderOptions.read_assigned hword]
  | case6 options word option hword =>
      have hwithout : switch.without [word] = [word] := by
        rw [without.eq_def]
        simp only [hword]
      rw [hwithout, RenderOptions.read_awaiting_nil hword]
      rfl
  | case7 options word option hword value rest ih =>
      have hwithout : switch.without (word :: value :: rest) =
          word :: value :: switch.without rest := by
        rw [without.eq_def]
        simp only [hword]
      rw [← ih, off_assign, hwithout, RenderOptions.read_awaiting_cons hword]
  | case8 options word rest hword =>
      have hwithout : switch.without (word :: rest) = word :: rest := by
        rw [without.eq_def]
        simp only [hword]
      rw [hwithout, RenderOptions.read_unknown hword]
      rfl

example : json.without ["--name", "--json", "--json", "-v", "-h", "--json"] =
    ["--name", "--json", "-v", "-h", "--json"] := by
  decide +kernel

end Switch

end SqlStatement
