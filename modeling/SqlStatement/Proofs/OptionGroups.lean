import SqlStatement.Proofs.Switches

/-! # Groups of option words

The words behind the command fall into groups, each one an option with its value
if it takes one. `Grouped` says which words stand for which groups, without
reading them; the value of an option is kept as it is written. Words in groups
are read one group after the other, and then what stands behind them.
-/

namespace SqlStatement

/-! ## Copies of a lead -/

namespace Text

theorem dropCopiesFuel_succ {lead s : List Char} {fuel : Nat} (hlead : lead ≠ [])
    (hfuel : s.length ≤ fuel) :
    dropCopiesFuel lead (fuel + 1) s = dropCopiesFuel lead fuel s := by
  -- Each copy takes a character at least, so the text is used up before the fuel is.
  have hpos := List.length_pos_iff.mpr hlead
  induction fuel generalizing s with
  | zero =>
      obtain rfl : s = [] := List.length_eq_zero_iff.mp (by omega)
      obtain ⟨c, rest, rfl⟩ := List.exists_cons_of_ne_nil hlead
      rfl
  | succ fuel ih =>
      have hrest : (s.drop lead.length).length ≤ fuel := by
        rw [List.length_drop]
        omega
      rw [dropCopiesFuel, ih hrest]
      rfl

theorem dropCopiesFuel_eq_dropCopies {lead s : List Char} {fuel : Nat} (hlead : lead ≠ [])
    (hfuel : s.length ≤ fuel) : dropCopiesFuel lead fuel s = dropCopies lead s := by
  obtain ⟨spare, rfl⟩ := Nat.exists_eq_add_of_le hfuel
  clear hfuel
  induction spare with
  | zero => rfl
  | succ spare ih => rw [← Nat.add_assoc, dropCopiesFuel_succ hlead (by omega), ih]

theorem dropCopies_append {lead : List Char} (hlead : lead ≠ []) (s : List Char) :
    dropCopies lead (lead ++ s) = dropCopies lead s := by
  have hpos := List.length_pos_iff.mpr hlead
  have hlength : (lead ++ s).length = lead.length - 1 + s.length + 1 := by
    rw [List.length_append]
    omega
  have hbegins : lead.isPrefixOf (lead ++ s) = true :=
    List.isPrefixOf_iff_prefix.mpr (List.prefix_append _ _)
  rw [dropCopies, hlength, dropCopiesFuel, if_pos hbegins, List.drop_left,
    dropCopiesFuel_eq_dropCopies hlead (by omega)]

theorem dropCopiesFuel_spec {lead : List Char} (hlead : lead ≠ []) (fuel : Nat) {s : List Char}
    (hfuel : s.length ≤ fuel) :
    (∃ copies, s = (List.replicate copies lead).flatten ++ dropCopiesFuel lead fuel s) ∧
      ¬ lead <+: dropCopiesFuel lead fuel s := by
  have hpos := List.length_pos_iff.mpr hlead
  induction fuel generalizing s with
  | zero =>
      obtain rfl : s = [] := List.length_eq_zero_iff.mp (by omega)
      exact ⟨⟨0, rfl⟩, fun hbegins => hlead (List.prefix_nil.mp hbegins)⟩
  | succ fuel ih =>
      rw [dropCopiesFuel]
      split
      · next hbegins =>
          obtain ⟨rest, rfl⟩ := List.isPrefixOf_iff_prefix.mp hbegins
          rw [List.drop_left]
          have hrest : rest.length ≤ fuel := by
            rw [List.length_append] at hfuel
            omega
          obtain ⟨⟨copies, hcopies⟩, hbare⟩ := ih hrest
          refine ⟨⟨copies + 1, ?_⟩, hbare⟩
          rw [List.replicate_succ, List.flatten_cons, List.append_assoc, ← hcopies]
      · next hbegins =>
          exact ⟨⟨0, rfl⟩, fun hlead => hbegins (List.isPrefixOf_iff_prefix.mpr hlead)⟩

/-- Copies of the lead go from the front, and then the text does not begin with one. -/
theorem dropCopies_spec {lead : List Char} (hlead : lead ≠ []) (s : List Char) :
    (∃ copies, s = (List.replicate copies lead).flatten ++ dropCopies lead s) ∧
      ¬ lead <+: dropCopies lead s :=
  dropCopiesFuel_spec hlead s.length (Nat.le_refl _)

end Text

namespace ValueOption

/-- A value without the copies of the option's lead at its front. -/
def bare (option : ValueOption) (value : String) : String :=
  String.ofList (Text.dropCopies option.lead value.toList)

def attach (option : ValueOption) (value : String) : String :=
  option.flag ++ "=" ++ value

theorem toList_attach (option : ValueOption) (value : String) :
    (option.attach value).toList = option.lead ++ value.toList := by
  simp [attach, lead]

theorem lead_ne_nil (option : ValueOption) : option.lead ≠ [] := by
  simp [lead]

theorem toList_bare (option : ValueOption) (value : String) :
    (option.bare value).toList = Text.dropCopies option.lead value.toList :=
  String.toList_ofList

theorem bare_spec (option : ValueOption) (value : String) :
    (∃ copies, value.toList =
        (List.replicate copies option.lead).flatten ++ (option.bare value).toList) ∧
      ¬ option.lead <+: (option.bare value).toList := by
  rw [toList_bare]
  exact Text.dropCopies_spec option.lead_ne_nil value.toList

theorem bare_eq_self_iff (option : ValueOption) (value : String) :
    option.bare value = value ↔ ¬ option.lead <+: value.toList := by
  constructor
  · intro hsame
    rw [← hsame]
    exact (option.bare_spec value).2
  · intro hbare
    have hbegins : option.lead.isPrefixOf value.toList = false := by
      rw [← Bool.not_eq_true, List.isPrefixOf_iff_prefix]
      exact hbare
    rw [bare, Text.dropCopies_of_not_isPrefixOf hbegins, String.ofList_toList]

/-- In the word of an option and its value, at least one copy of the lead goes. -/
theorem attach_spec (option : ValueOption) (value : String) :
    (∃ copies, (option.attach value).toList =
        (List.replicate (copies + 1) option.lead).flatten ++ (option.bare value).toList) ∧
      ¬ option.lead <+: (option.bare value).toList := by
  obtain ⟨⟨copies, hcopies⟩, hbare⟩ := option.bare_spec value
  refine ⟨⟨copies, ?_⟩, hbare⟩
  rw [toList_attach, List.replicate_succ, List.flatten_cons, List.append_assoc, ← hcopies]

theorem attached?_attach (option : ValueOption) (value : String) :
    option.attached? (option.attach value) = some (option.bare value) := by
  have hbegins : option.lead.isPrefixOf (option.attach value).toList = true := by
    rw [toList_attach]
    exact List.isPrefixOf_iff_prefix.mpr (List.prefix_append _ _)
  rw [attached?, if_pos hbegins, toList_attach, Text.dropCopies_append option.lead_ne_nil]
  rfl

theorem eq_attach_of_attached? {option : ValueOption} {word value : String}
    (h : option.attached? word = some value) :
    ∃ written, word = option.attach written ∧ value = option.bare written := by
  unfold attached? at h
  split at h
  · next hbegins =>
      obtain ⟨written, hword⟩ := List.isPrefixOf_iff_prefix.mp hbegins
      have hattach : word = option.attach (String.ofList written) := by
        rw [← String.toList_inj, toList_attach, String.toList_ofList, hword]
      refine ⟨_, hattach, ?_⟩
      have hsame := option.attached?_attach (String.ofList written)
      rw [← hattach, attached?, if_pos hbegins] at hsame
      exact (Option.some.inj h).symm.trans (Option.some.inj hsame)
  · cases h

theorem config_attached?_name (value : String) :
    config.attached? (name.attach value) = none := by
  simp [attached?, toList_attach, lead, flag]

/-- A word that does not begin with the option's lead is not the option with a value. -/
theorem attach_ne {option : ValueOption} {word : String}
    (hword : option.lead.isPrefixOf word.toList = false) (value : String) :
    option.attach value ≠ word := by
  rintro rfl
  rw [toList_attach, List.isPrefixOf_iff_prefix.mpr (List.prefix_append _ _)] at hword
  cases hword

end ValueOption

/-! ## Single words -/

namespace OptionWord

/-- How an option is written in its own word. -/
inductive Written : OptionWord → String → Prop
  | shortHelp : Written .help "-h"
  | longHelp : Written .help "--help"
  | json : Written .json "--json"
  | shortVerbose : Written .verbose "-v"
  | longVerbose : Written .verbose "--verbose"
  | awaiting (option : ValueOption) : Written (.awaiting option) option.flag
  | assigned (option : ValueOption) (value : String) :
      Written (.assigned option (option.bare value)) (option.attach value)

theorem ofWord_attach (option : ValueOption) (value : String) :
    ofWord (option.attach value) = .assigned option (option.bare value) := by
  -- The words that stand alone come first in the reading, and none of them has a lead.
  have hfixed : ∀ word ∈ ["-h", "--help", "--json", "-v", "--verbose", "--config", "--name"],
      option.attach value ≠ word := by
    intro word hword
    apply ValueOption.attach_ne
    revert word
    cases option <;> decide
  simp only [List.forall_mem_cons] at hfixed
  obtain ⟨hh, hhelp, hjson, hv, hverbose, hconfig, hname, -⟩ := hfixed
  have hvalue := option.attached?_attach value
  simp only [ofWord, hh, hhelp, hjson, hv, hverbose, ValueOption.flag, hconfig, hname, or_self,
    if_false]
  cases option with
  | config => simp only [hvalue]
  | name => simp only [ValueOption.config_attached?_name, hvalue]

theorem ofWord_of_written {read : OptionWord} {word : String} (h : Written read word) :
    ofWord word = read := by
  cases h with
  | assigned option value => exact ofWord_attach option value
  | awaiting option => cases option <;> decide
  | _ => decide

theorem written_ofWord {read : OptionWord} {word : String} (h : Written read word) :
    Written (ofWord word) word := by
  rw [ofWord_of_written h]
  exact h

/-- There are no other ways to write an option. -/
theorem written_or_unknown (word : String) :
    Written (ofWord word) word ∨ ofWord word = .unknown := by
  by_cases hhelp : word = "-h" ∨ word = "--help"
  · rcases hhelp with rfl | rfl
    · exact Or.inl (written_ofWord .shortHelp)
    · exact Or.inl (written_ofWord .longHelp)
  by_cases hjson : word = "--json"
  · exact Or.inl (hjson ▸ written_ofWord .json)
  by_cases hverbose : word = "-v" ∨ word = "--verbose"
  · rcases hverbose with rfl | rfl
    · exact Or.inl (written_ofWord .shortVerbose)
    · exact Or.inl (written_ofWord .longVerbose)
  by_cases hconfig : word = ValueOption.config.flag
  · exact Or.inl (hconfig ▸ written_ofWord (.awaiting .config))
  by_cases hname : word = ValueOption.name.flag
  · exact Or.inl (hname ▸ written_ofWord (.awaiting .name))
  cases hconfigValue : ValueOption.config.attached? word with
  | some value =>
      obtain ⟨written, rfl, -⟩ := ValueOption.eq_attach_of_attached? hconfigValue
      exact Or.inl (written_ofWord (.assigned .config written))
  | none =>
      cases hnameValue : ValueOption.name.attached? word with
      | some value =>
          obtain ⟨written, rfl, -⟩ := ValueOption.eq_attach_of_attached? hnameValue
          exact Or.inl (written_ofWord (.assigned .name written))
      | none =>
          right
          simp only [ofWord, hhelp, hjson, hverbose, hconfig, hname, hconfigValue, hnameValue,
            if_false]

theorem written_of_ofWord {read : OptionWord} {word : String} (h : ofWord word = read)
    (hknown : read ≠ .unknown) : Written read word := by
  rcases written_or_unknown word with hwritten | hunknown
  · exact h ▸ hwritten
  · exact absurd (h.symm.trans hunknown) hknown

end OptionWord

/-! ## Groups -/

/-- An option with its value, as it is written: in the word behind it or in the same word. -/
inductive OptionGroup where
  | switch (switched : Switch)
  | separate (option : ValueOption) (value : String)
  | attached (option : ValueOption) (value : String)
  deriving DecidableEq

namespace OptionGroup

/-- The words of a group.  The word behind an option is its value, whatever it looks like. -/
inductive Spelled : OptionGroup → List String → Prop
  | switch {switched word} (hword : OptionWord.Written switched.word word) :
      Spelled (.switch switched) [word]
  | separate (option : ValueOption) (value : String) :
      Spelled (.separate option value) [option.flag, value]
  | attached (option : ValueOption) (value : String) :
      Spelled (.attached option value) [option.attach value]

def apply (options : RenderOptions) : OptionGroup → RenderOptions
  | switch switched => switched.on options
  | separate option value => options.assign option value
  | attached option value => options.assign option (option.bare value)

def name? : OptionGroup → Option String
  | separate .name value | attached .name value => some value
  | _ => none

def items : OptionGroup → List String
  | separate .name value => Text.items value
  | attached .name value => Text.items (ValueOption.name.bare value)
  | _ => []

theorem apply_names (options : RenderOptions) (group : OptionGroup) :
    (apply options group).names = options.names ++ group.items := by
  cases group with
  | switch switched => cases switched <;> simp [apply, items, Switch.on]
  | separate option value => cases option <;> simp [apply, items, RenderOptions.assign]
  | attached option value => cases option <;> simp [apply, items, RenderOptions.assign]

theorem foldl_apply_names (options : RenderOptions) (groups : List OptionGroup) :
    (groups.foldl apply options).names = options.names ++ groups.flatMap items := by
  induction groups generalizing options with
  | nil => simp
  | cons group rest ih =>
      rw [List.foldl_cons, ih, apply_names, List.flatMap_cons, List.append_assoc]

theorem read_append_of_spelled {group : OptionGroup} {words : List String}
    (h : group.Spelled words) (options : RenderOptions) (rest : List String) :
    RenderOptions.read options (words ++ rest) =
      RenderOptions.read (apply options group) rest := by
  cases h with
  | switch hword => exact RenderOptions.read_switch (OptionWord.ofWord_of_written hword) _ _
  | separate option value =>
      exact RenderOptions.read_awaiting_cons
        (OptionWord.ofWord_of_written (.awaiting option)) _ _ _
  | attached option value =>
      exact RenderOptions.read_assigned
        (OptionWord.ofWord_of_written (.assigned option value)) _ _

end OptionGroup

inductive Grouped : List OptionGroup → List String → Prop
  | nil : Grouped [] []
  | cons {group groups words rest} (hgroup : OptionGroup.Spelled group words)
      (hrest : Grouped groups rest) : Grouped (group :: groups) (words ++ rest)

theorem Grouped.read_append {groups : List OptionGroup} {words : List String}
    (h : Grouped groups words) (options : RenderOptions) (rest : List String) :
    RenderOptions.read options (words ++ rest) =
      RenderOptions.read (groups.foldl OptionGroup.apply options) rest := by
  induction h generalizing options with
  | nil => rfl
  | cons hgroup hrest ih =>
      rw [List.append_assoc, OptionGroup.read_append_of_spelled hgroup, ih, List.foldl_cons]

end SqlStatement
