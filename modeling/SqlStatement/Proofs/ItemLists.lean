import SqlStatement.Proofs.Items
import SqlStatement.Proofs.OptionGroups

/-! # Lists that are joined and lists as they are written

A comma between two lists joins their items, so that several name options ask for the
same names as one option with their values behind commas. A list is written piece by
piece, each item with blanks around it and blank pieces anywhere; what is read are the
items, and there is no other way to write them.
-/

namespace SqlStatement

namespace Text

/-! ## Joining -/

theorem items_append_comma (s t : String) : items (s ++ "," ++ t) = items s ++ items t := by
  have hcomma : (s ++ "," ++ t).toList = s.toList ++ ',' :: t.toList := by
    simp
  simp only [items, pieces_eq_splitOn, hcomma, List.splitOn_append_cons_self, List.map_append,
    List.filterMap_append]

theorem items_intercalate (values : List String) :
    items (",".intercalate values) = values.flatMap items := by
  induction values with
  | nil => rfl
  | cons value rest ih =>
      cases rest with
      | nil => simp
      | cons second rest =>
          rw [String.intercalate_cons_cons, items_append_comma, ih]
          rfl

/-! ## Blanks around a text -/

theorem isBlankText_iff (s : String) :
    isBlankText s = true ↔ ∀ c ∈ s.toList, isBlank c = true :=
  List.all_eq_true

theorem trim_append_of_blank_front {before : List Char}
    (hbefore : ∀ c ∈ before, isBlank c = true) (s : List Char) : trim (before ++ s) = trim s := by
  simp only [trim, trimStart, List.dropWhile_append_of_pos hbefore]

theorem trim_append_of_blank_back {after : List Char} (hafter : ∀ c ∈ after, isBlank c = true)
    (s : List Char) : trim (s ++ after) = trim s := by
  have hreverse : ∀ c ∈ after.reverse, isBlank c = true := by
    simpa only [List.mem_reverse] using hafter
  simp only [trim, trimStart, List.dropWhile_append]
  split
  · next hempty =>
      -- Nothing but blanks stands in front, and then nothing is left of either text.
      rw [List.isEmpty_iff.mp hempty, List.dropWhile_eq_nil_iff.mpr hafter]
  · rw [List.reverse_append, List.dropWhile_append_of_pos hreverse]

/-- A text is what trimming leaves of it, between blanks. -/
theorem exists_blanks_around (s : List Char) :
    ∃ before after, s = before ++ trim s ++ after ∧ (∀ c ∈ before, isBlank c = true) ∧
      ∀ c ∈ after, isBlank c = true := by
  refine ⟨s.takeWhile isBlank, (s.dropWhile isBlank).rtakeWhile isBlank, ?_, ?_, ?_⟩
  · rw [trim_eq_rdropWhile, List.append_assoc, List.rdropWhile_append_rtakeWhile,
      List.takeWhile_append_dropWhile]
  · exact fun c hc => List.mem_takeWhile_imp hc
  · exact fun c hc => List.mem_rtakeWhile_imp hc

/-! ## Single pieces -/

theorem items_of_not_mem_comma {piece : String} (hcomma : ',' ∉ piece.toList) :
    items piece =
      if (trim piece.toList).isEmpty then [] else [String.ofList (trim piece.toList)] := by
  rw [items, pieces_eq_splitOn, List.splitOn_eq_singleton hcomma, List.map_singleton,
    List.filterMap_cons]
  split <;> simp_all

theorem not_mem_comma_of_blank {s : List Char} (hblank : ∀ c ∈ s, isBlank c = true) : ',' ∉ s :=
  fun hcomma => absurd (hblank _ hcomma) (by decide)

theorem items_of_blank {piece : String} (hblank : isBlankText piece = true) :
    items piece = [] := by
  rw [isBlankText_iff] at hblank
  have htrim : trim piece.toList = [] := by
    rw [← List.append_nil piece.toList, trim_append_of_blank_front hblank]
    rfl
  rw [items_of_not_mem_comma (not_mem_comma_of_blank hblank), htrim]
  rfl

theorem items_between_blanks {before text after : String} (hbefore : isBlankText before = true)
    (hafter : isBlankText after = true) (htext : IsItem text) :
    items (before ++ text ++ after) = [text] := by
  rw [isBlankText_iff] at hbefore hafter
  have hcomma : ',' ∉ (before ++ text ++ after).toList := by
    simp [not_mem_comma_of_blank hbefore, not_mem_comma_of_blank hafter, htext.comma]
  have htrim : trim (before ++ text ++ after).toList = text.toList := by
    rw [String.toList_append, String.toList_append, trim_append_of_blank_back hafter,
      trim_append_of_blank_front hbefore, trim_of_trimmed htext.trimmed]
  rw [items_of_not_mem_comma hcomma, htrim, String.ofList_toList, if_neg]
  simpa using htext.nonempty

/-! ## Lists as they are written -/

/-- The pieces of a list as it may be written: each item between blanks, and between the items,
in front of them and behind them pieces of nothing but blanks. -/
inductive Padded : List String → List String → Prop
  | nil : Padded [] []
  | blank {piece pieces texts} (hblank : isBlankText piece = true) (hrest : Padded pieces texts) :
      Padded (piece :: pieces) texts
  | item {before text after pieces texts} (hbefore : isBlankText before = true)
      (hafter : isBlankText after = true) (hrest : Padded pieces texts) :
      Padded ((before ++ text ++ after) :: pieces) (text :: texts)

theorem Padded.flatMap_items {pieces texts : List String} (h : Padded pieces texts)
    (htexts : ∀ text ∈ texts, IsItem text) : pieces.flatMap items = texts := by
  induction h with
  | nil => rfl
  | blank hblank _ ih => rw [List.flatMap_cons, items_of_blank hblank, ih htexts, List.nil_append]
  | item hbefore hafter _ ih =>
      obtain ⟨htext, hrest⟩ := List.forall_mem_cons.mp htexts
      rw [List.flatMap_cons, items_between_blanks hbefore hafter htext, ih hrest]
      rfl

theorem padded_of_not_mem_comma {pieces : List String}
    (hcomma : ∀ piece ∈ pieces, ',' ∉ piece.toList) : Padded pieces (pieces.flatMap items) := by
  induction pieces with
  | nil => exact .nil
  | cons piece rest ih =>
      obtain ⟨hpiece, hrest⟩ := List.forall_mem_cons.mp hcomma
      obtain ⟨before, after, hsplit, hbefore, hafter⟩ := exists_blanks_around piece.toList
      rw [List.flatMap_cons, items_of_not_mem_comma hpiece]
      split
      · next hempty =>
          refine .blank ?_ (ih hrest)
          rw [List.isEmpty_iff.mp hempty, List.append_nil] at hsplit
          rw [isBlankText_iff, hsplit]
          simpa [or_imp, forall_and] using ⟨hbefore, hafter⟩
      · have hpadded : piece =
            String.ofList before ++ String.ofList (trim piece.toList) ++ String.ofList after := by
          rw [← String.toList_inj]
          simpa using hsplit
        rw [List.singleton_append]
        nth_rewrite 1 [hpadded]
        refine .item ?_ ?_ (ih hrest)
        · rwa [isBlankText_iff, String.toList_ofList]
        · rwa [isBlankText_iff, String.toList_ofList]

theorem exists_pieces (s : String) :
    ∃ pieces, s = ",".intercalate pieces ∧ ∀ piece ∈ pieces, ',' ∉ piece.toList := by
  refine ⟨(pieces ',' s.toList).map String.ofList, ?_, ?_⟩
  · rw [← String.toList_inj, pieces_eq_splitOn, String.toList_intercalate, List.map_map]
    simp [Function.comp_def]
  · intro piece hpiece
    obtain ⟨chars, hchars, rfl⟩ := List.mem_map.mp hpiece
    rw [String.toList_ofList]
    exact not_mem_of_mem_pieces hchars

/-- The texts that are read from a list are items, and it is a way to write them. -/
theorem items_eq_iff (s : String) (texts : List String) :
    items s = texts ↔
      (∀ text ∈ texts, IsItem text) ∧
        ∃ pieces, s = ",".intercalate pieces ∧ Padded pieces texts := by
  constructor
  · rintro rfl
    refine ⟨fun text htext => isItem_of_mem_items htext, ?_⟩
    obtain ⟨pieces, hjoined, hcomma⟩ := exists_pieces s
    refine ⟨pieces, hjoined, ?_⟩
    rw [hjoined, items_intercalate]
    exact padded_of_not_mem_comma hcomma
  · rintro ⟨htexts, pieces, rfl, hpadded⟩
    rw [items_intercalate, hpadded.flatMap_items htexts]

end Text

/-! ## Name options -/

theorem RenderOptions.read_separate_names (options : RenderOptions) (values rest : List String) :
    read options ((values.flatMap fun value => [ValueOption.name.flag, value]) ++ rest) =
      read { options with names := options.names ++ values.flatMap Text.items } rest := by
  induction values generalizing options with
  | nil => simp
  | cons value values ih =>
      have hflag := OptionWord.ofWord_of_written (.awaiting .name)
      rw [List.flatMap_cons, List.append_assoc, List.cons_append, List.singleton_append,
        read_awaiting_cons hflag, ih]
      simp [assign]

/-- Joined lists have the items of each list, and behind groups of options one name option with
the joined list is read as one name option for each list. A text is read as a list of texts
exactly if these are items and it is a way to write them. -/
theorem items_joined_and_written {groups : List OptionGroup} {front : List String}
    (hfront : Grouped groups front) (program : String) (values rest : List String) (s : String)
    (texts : List String) :
    Text.items (",".intercalate values) = values.flatMap Text.items ∧
      Command.ofArguments (program :: "render" ::
          (front ++ ValueOption.name.flag :: ",".intercalate values :: rest)) =
        Command.ofArguments (program :: "render" ::
          (front ++ ((values.flatMap fun value => [ValueOption.name.flag, value]) ++ rest))) ∧
      (Text.items s = texts ↔
        (∀ text ∈ texts, Text.IsItem text) ∧
          ∃ pieces, s = ",".intercalate pieces ∧ Text.Padded pieces texts) := by
  refine ⟨Text.items_intercalate values, ?_, Text.items_eq_iff s texts⟩
  have hflag := OptionWord.ofWord_of_written (.awaiting .name)
  rw [Command.ofArguments_render, Command.ofArguments_render, hfront.read_append,
    hfront.read_append, RenderOptions.read_awaiting_cons hflag, RenderOptions.read_separate_names,
    RenderOptions.assign, Text.items_intercalate]

/-- Two lists behind another option, and a list with blanks and blank pieces. -/
theorem items_joined_and_written_spaced :
    Grouped [.switch .json] ["--json"] ∧
      Command.ofArguments ["sqlkit", "render", "--json", "--name", "a, b,,c", "-v"] =
        Command.ofArguments
          ["sqlkit", "render", "--json", "--name", "a, b", "--name", ",c", "-v"] ∧
      Text.items ", x\u3000,  ,y" = ["x", "y"] := by
  have hjson : OptionGroup.Spelled (.switch .json) ["--json"] := .switch OptionWord.Written.json
  have hfront : Grouped [.switch .json] ["--json"] := .cons hjson .nil
  have h := items_joined_and_written hfront "sqlkit" ["a, b", ",c"] ["-v"] ", x\u3000,  ,y"
    ["x", "y"]
  have hpadded : Text.Padded ["", " " ++ "x" ++ "\u3000", "  ", "" ++ "y" ++ ""] ["x", "y"] :=
    .blank rfl (.item rfl rfl (.blank rfl (.item rfl rfl .nil)))
  refine ⟨hfront, h.2.1, h.2.2.mpr ⟨?_, _, by decide, hpadded⟩⟩
  intro text htext
  apply Text.isItem_of_mem_items (s := "x,y")
  revert text
  decide

end SqlStatement
