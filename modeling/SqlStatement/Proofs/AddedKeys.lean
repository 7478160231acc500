import SqlStatement.Proofs.WrittenConfig

/-! # What is written, and one key too many

A document that is written as a configuration is read as that configuration. If one of
its tables gets a key that is not declared there, it is not read at all: the key is the
only thing that does not fit, and so it is what the error tells, wherever it stands.
-/

namespace SqlStatement

open Toml (Value)
open Toml.Value

/-! ## One change in a value -/

/-- A table gets a key, somewhere between the others, that is none of the names. -/
inductive AddsKey (names : List String) (key : String) : Value → Value → Prop
  | table (front back : List (String × Value)) (value : Value) (hkey : key ∉ names) :
      AddsKey names key (.table (front ++ back)) (.table (front ++ (key, value) :: back))

inductive InItem (Changes : Value → Value → Prop) : Value → Value → Prop
  | array (front back : List Value) {item changed : Value} (h : Changes item changed) :
      InItem Changes (.array (front ++ item :: back)) (.array (front ++ changed :: back))

/-- The value of one field changes, behind its key or at its place. -/
inductive InField (names : List String) (name : String) (Changes : Value → Value → Prop) :
    Value → Value → Prop
  | table (front back : List (String × Value)) {value changed : Value}
      (h : Changes value changed) :
      InField names name Changes (.table (front ++ (name, value) :: back))
        (.table (front ++ (name, changed) :: back))
  | array (front back : List Value) {value changed : Value}
      (hplace : names[front.length]? = some name) (h : Changes value changed) :
      InField names name Changes (.array (front ++ value :: back))
        (.array (front ++ changed :: back))

namespace Shape

variable {α : Type} {shape : Shape α}

/-! ## One entry that fails -/

/-- Whatever was read before, the entry can be read. -/
def Readable (shape : Shape α) (entry : String × Value) : Prop :=
  ∀ record, ∃ next, shape.readEntry record entry = .ok next

def Fails (shape : Shape α) (misfit : Misfit) (entry : String × Value) : Prop :=
  ∀ record, shape.readEntry record entry = .error misfit

theorem fails_of_not_mem_names {key : String} (hkey : key ∉ shape.names) (value : Value) :
    shape.Fails (.unknownField key shape.names) (key, value) := by
  intro record
  have hfield : shape.field? key = none := by
    rw [field?, List.find?_eq_none]
    intro field hfield hname
    exact hkey (List.mem_map.mpr ⟨field, hfield, by simpa using hname⟩)
  rw [readEntry, hfield]

theorem ReadsList.fails {ι : Type} {readItem : Value → Except Misfit ι} {name : String}
    {misfit : Misfit} {value : Value} (h : shape.ReadsList name readItem)
    (hlist : readList readItem value = .error misfit) : shape.Fails misfit (name, value) := by
  obtain ⟨put, hread⟩ := h
  intro record
  rw [hread, hlist]
  rfl

theorem readEntries_eq_error {entries : List (String × Value)} {entry : String × Value}
    {misfit : Misfit} (hentry : entry ∈ entries) (hfails : shape.Fails misfit entry)
    (hothers : ∀ other ∈ entries, other = entry ∨ shape.Readable other) (record : α) :
    shape.readEntries record entries = .error misfit := by
  induction entries generalizing record with
  | nil => cases hentry
  | cons first rest ih =>
      obtain ⟨hfirst, hrest⟩ := List.forall_mem_cons.mp hothers
      rw [readEntries]
      rcases hfirst with rfl | hreadable
      · rw [hfails record]
        rfl
      · obtain ⟨next, hnext⟩ := hreadable record
        rcases List.mem_cons.mp hentry with rfl | hin
        · rw [hfails record]
          rfl
        · rw [hnext]
          exact ih hin hrest next

theorem ofTable_eq_error {front back : List (String × Value)} {entry : String × Value}
    {misfit : Misfit} (hfails : shape.Fails misfit entry)
    (hothers : ∀ other ∈ front ++ back, shape.Readable other) :
    shape.ofTable (front ++ entry :: back) = .error misfit := by
  have hentry : entry ∈ sortedByKey (front ++ entry :: back) :=
    mem_sortedByKey.mpr (List.mem_append_right front List.mem_cons_self)
  have hread := readEntries_eq_error hentry hfails ?_ shape.blank
  · rw [ofTable, hread]
    rfl
  · intro other hother
    rw [mem_sortedByKey, List.mem_append, List.mem_cons, or_left_comm] at hother
    exact hother.imp_right fun hin => hothers other (List.mem_append.mpr hin)

end Shape

/-- Two lists side by side, at one place of both. -/
theorem zip_append_cons {ι κ : Type*} {xs : List ι} {x : ι} {front : List κ}
    (hplace : xs[front.length]? = some x) (y : κ) (back : List κ) :
    xs.zip (front ++ y :: back) =
      (xs.take front.length).zip front ++ (x, y) :: (xs.drop (front.length + 1)).zip back := by
  obtain ⟨hlt, hx⟩ := List.getElem?_eq_some_iff.mp hplace
  have hsplit : xs = xs.take front.length ++ x :: xs.drop (front.length + 1) := by
    rw [← hx, ← List.drop_eq_getElem_cons hlt, List.take_append_drop]
  have hlength : (xs.take front.length).length = front.length :=
    List.length_take_of_le (Nat.le_of_lt hlt)
  nth_rewrite 1 [hsplit]
  rw [List.zip_append hlength, List.zip_cons_cons]

theorem mem_zip_append_cons {ι κ : Type*} {xs : List ι} {x : ι} {front : List κ}
    (hplace : xs[front.length]? = some x) (y : κ) (back : List κ) :
    (x, y) ∈ xs.zip (front ++ y :: back) := by
  rw [zip_append_cons hplace]
  exact List.mem_append_right _ List.mem_cons_self

namespace Shape.HasSlots

variable {α : Type} {shape : Shape α} {slots : List (Slot α)} {cut : String → Value → Value}
  {record : α} {misfit : Misfit}

theorem ofArray_eq_error (h : shape.HasSlots slots cut) {front back : List Value}
    {value changed : Value} {name : String} (hplace : shape.names[front.length]? = some name)
    (hfails : shape.Fails misfit (name, changed))
    (hothers : ∀ other ∈ shape.names.zip (front ++ value :: back), shape.Readable other) :
    shape.ofArray (front ++ changed :: back) = .error misfit := by
  rw [zip_append_cons hplace] at hothers
  have hread := readEntries_eq_error (mem_zip_append_cons hplace changed back) hfails ?_
    shape.blank
  · rw [ofArray, h.readPlaces_eq_readEntries (List.Subset.refl _), ← names, hread]
    rfl
  · rw [zip_append_cons hplace]
    intro other hother
    rw [List.mem_append, List.mem_cons, or_left_comm] at hother
    refine hother.imp_right fun hin => hothers other ?_
    rw [List.mem_append, List.mem_cons]
    exact hin.imp_right Or.inr

theorem readable_of_tableOf (h : shape.HasSlots slots cut) {entries : List (String × Value)}
    (htable : Slot.TableOf slots record entries) : ∀ entry ∈ entries, shape.Readable entry := by
  intro entry hentry start
  obtain ⟨slot, hslot, hname, hshows⟩ := htable.shown entry hentry
  exact ⟨_, h.readEntry_of_shows hslot hname hshows start⟩

theorem readable_of_arrayOf (h : shape.HasSlots slots cut) {items : List Value}
    (harray : Slot.ArrayOf slots record items) :
    ∀ entry ∈ shape.names.zip items, shape.Readable entry := by
  intro entry hentry start
  obtain ⟨pair, hpair, rfl⟩ := (h.mem_names_zip_iff items).mp hentry
  exact ⟨_, h.readEntry_of_shows (List.of_mem_zip hpair).1 rfl (harray.shown pair hpair) start⟩

/-- In a value that shows a record, a key too many is what does not fit. -/
theorem read_of_addsKey (h : shape.HasSlots slots cut) {key : String} {value changed : Value}
    (hwritten : Slot.RecordOf slots record value) (hadds : AddsKey shape.names key value changed) :
    shape.read changed = .error (.unknownField key shape.names) := by
  cases hadds with
  | table front back added hkey =>
      exact ofTable_eq_error (fails_of_not_mem_names hkey added) (h.readable_of_tableOf hwritten)

/-- In a value that shows a record, a field that stops fitting is what does not fit. -/
theorem read_of_inField (h : shape.HasSlots slots cut) {slot : Slot α} (hslot : slot ∈ slots)
    {Changes : Value → Value → Prop} {value changed : Value}
    (hwritten : Slot.RecordOf slots record value)
    (hin : InField shape.names slot.name Changes value changed)
    (hfails : ∀ inner outcome, slot.Shows (slot.item record) inner → Changes inner outcome →
      shape.Fails misfit (slot.name, outcome)) :
    shape.read changed = .error misfit := by
  cases hin with
  | table front back hchanges =>
      obtain ⟨other, hother, hname, hshows⟩ :=
        hwritten.shown _ (List.mem_append_right _ List.mem_cons_self)
      obtain rfl := h.eq_of_name_eq hother hslot hname
      refine ofTable_eq_error (hfails _ _ hshows hchanges) fun entry hentry => ?_
      apply h.readable_of_tableOf hwritten
      rw [List.mem_append, List.mem_cons]
      exact (List.mem_append.mp hentry).imp_right Or.inr
  | @array front back inner outcome hplace hchanges =>
      refine h.ofArray_eq_error hplace (hfails _ _ ?_ hchanges) (h.readable_of_arrayOf hwritten)
      obtain ⟨pair, hpair, hentry⟩ := (h.mem_names_zip_iff _).mp
        (mem_zip_append_cons hplace inner back)
      obtain ⟨hname, rfl⟩ := Prod.mk.inj hentry
      obtain rfl := h.eq_of_name_eq (List.of_mem_zip hpair).1 hslot hname
      exact hwritten.shown pair hpair

end Shape.HasSlots

/-- In an array that shows a list, an item that stops fitting is what does not fit. -/
theorem ReadsAs.readList_of_inItem {ι : Type} {read : Value → Except Misfit ι}
    {Shows : ι → Value → Prop} {cut : Value → Value} (h : ReadsAs read Shows cut)
    {Changes : Value → Value → Prop} {items : List ι} {value changed : Value} {misfit : Misfit}
    (hwritten : OfList Shows items value) (hin : InItem Changes value changed)
    (hfails : ∀ item inner outcome, Shows item inner → Changes inner outcome →
      read outcome = .error misfit) :
    readList read changed = .error misfit := by
  obtain ⟨values, hvalues, hshown⟩ := hwritten
  cases hin with
  | array front back hchanges =>
      obtain rfl := Value.array.inj hvalues
      rw [readList, readItems_eq_mapM, mapM_eq_error_iff]
      refine ⟨_, _, _, rfl, fun earlier hearlier => ?_, ?_⟩
      · obtain ⟨item, -, hshows⟩ :=
          exists_mem_of_forall₂ hshown.flip (List.mem_append_left _ hearlier)
        exact ⟨item, h.read_of_shows hshows⟩
      · obtain ⟨item, -, hshows⟩ :=
          exists_mem_of_forall₂ hshown.flip (List.mem_append_right _ List.mem_cons_self)
        exact hfails item _ _ hshows hchanges

/-! ## A key too many in a configuration -/

namespace NamedStatement

inductive GetsKey (key : String) : List String → Value → Value → Prop
  | own {value changed : Value} (h : AddsKey shape.names key value changed) :
      GetsKey key shape.names value changed
  | sortKey {value changed : Value}
      (h : InField shape.names "order_by" (InItem (AddsKey SortKey.shape.names key))
        value changed) : GetsKey key SortKey.shape.names value changed

theorem read_of_getsKey {statement : NamedStatement} {value changed : Value} {key : String}
    {names : List String} (hwritten : statement.WrittenAs value)
    (hgets : GetsKey key names value changed) :
    shape.read changed = .error (.unknownField key names) := by
  cases hgets with
  | own hadds => exact hasSlots.read_of_addsKey hwritten hadds
  | sortKey hin =>
      have hslot : sortKeysSlot ∈ slots := by simp [slots]
      refine hasSlots.read_of_inField hslot hwritten hin fun inner outcome hshows hitem => ?_
      apply readsList_sortKeys.fails
      refine SortKey.readsAs.readList_of_inItem hshows hitem fun key _ _ hkey hadds => ?_
      exact SortKey.hasSlots.read_of_addsKey hkey hadds

end NamedStatement

namespace Config

/-- A configuration, one of its statements or one of their sort keys gets a key that is none of
the names declared there. -/
inductive GetsKey (key : String) : List String → Value → Value → Prop
  | own {value changed : Value} (h : AddsKey shape.names key value changed) :
      GetsKey key shape.names value changed
  | statement {names : List String} {value changed : Value}
      (h : InField shape.names "statements" (InItem (NamedStatement.GetsKey key names))
        value changed) : GetsKey key names value changed

/-- What is written as a configuration is read as that configuration, and with one key more than
declared, wherever it stands, it is refused for that key. -/
theorem written_read_back {config : Config} {entries : List (String × Value)}
    (hwritten : config.WrittenAs entries) :
    shape.ofTable entries = .ok config ∧
      ∀ key names changed, GetsKey key names (.table entries) (.table changed) →
        shape.ofTable changed = .error (.unknownField key names) := by
  refine ⟨hasSlots.ofTable_of_tableOf hwritten, fun key names changed hgets => ?_⟩
  have hrecord : Slot.RecordOf slots config (.table entries) := hwritten
  show shape.read (.table changed) = _
  cases hgets with
  | own hadds => exact hasSlots.read_of_addsKey hrecord hadds
  | statement hin =>
      have hslot : statementsSlot ∈ slots := by simp [slots]
      refine hasSlots.read_of_inField hslot hrecord hin fun inner outcome hshows hitem => ?_
      apply readsList_statements.fails
      refine NamedStatement.readsAs.readList_of_inItem hshows hitem fun statement _ _ h hgets => ?_
      exact NamedStatement.read_of_getsKey h hgets

/-! ### Both ways to write a record -/

def latest : NamedStatement where
  name := "latest"
  kind := .select
  table := "photos"
  sortKeys := [{ column := "id" }]
  limits := [5]

def latestEntries (sortKey : Value) : List (String × Value) := [
  ("table", .string "photos"), ("limit", .array [.integer 5]),
  ("order_by", .array [sortKey]), ("kind", .string "select"), ("name", .string "latest")]

def tags : NamedStatement where
  name := "tags"
  kind := .select
  table := "tags"
  columns := some ["id"]
  sortKeys := [{ column := "id", direction := .descending }]

def tagsItems : List Value := [
  .string "tags", .table [("select", .table [])], .string "tags", .array [.string "id"],
  .array [], .array [], .array [.array [.string "id", .string "desc"]]]

def latestAndTags : Config where
  version := "1"
  statements := [latest, tags]

def latestAndTagsEntries (sortKey : Value) : List (String × Value) := [
  ("statements", .array [.table (latestEntries sortKey), .array tagsItems]),
  ("version", .string "1")]

theorem latest_writtenAs :
    latest.WrittenAs (.table (latestEntries (.table [("column", .string "id")]))) := by
  have hkey : SortKey.WrittenAs { column := "id" } (.table [("column", .string "id")]) := by
    refine Slot.TableOf.mk (by decide) ?_ ?_
    · simp [SortKey.slots, OfText]
    · simp [SortKey.slots, Direction.default_eq]
  refine Slot.TableOf.mk (by decide) ?_ ?_
  · simp [NamedStatement.slots, NamedStatement.sortKeysSlot, latest, latestEntries, OfText,
      OfChoice.text, StatementKind.name, OfList, OfInt64, hkey]
  · simp [NamedStatement.slots, NamedStatement.sortKeysSlot, latest, latestEntries]

theorem tags_writtenAs : tags.WrittenAs (.array tagsItems) := by
  have hkey : SortKey.WrittenAs { column := "id", direction := .descending }
      (.array [.string "id", .string "desc"]) := by
    refine Slot.ArrayOf.mk (by decide) ?_ ?_
    · simp [SortKey.slots, OfText, OfChoice.text, Direction.name]
    · simp [SortKey.slots]
  refine Slot.ArrayOf.mk (by decide) ?_ ?_
  · simp [NamedStatement.slots, NamedStatement.sortKeysSlot, tags, tagsItems, OfText,
      OfChoice.table, StatementKind.name, OfSome, OfList, hkey]
  · simp [NamedStatement.slots, NamedStatement.sortKeysSlot, tags, tagsItems]

/-- A document with tables and arrays, and the same with one key more in a sort key. -/
theorem written_read_back_latestAndTags :
    latestAndTags.WrittenAs (latestAndTagsEntries (.table [("column", .string "id")])) ∧
      shape.ofTable (latestAndTagsEntries (.table [("column", .string "id")])) =
        .ok latestAndTags ∧
      shape.ofTable (latestAndTagsEntries
          (.table [("column", .string "id"), ("nulls", .string "last")])) =
        .error (.unknownField "nulls" ["column", "direction"]) := by
  have hwritten : latestAndTags.WrittenAs
      (latestAndTagsEntries (.table [("column", .string "id")])) := by
    refine Slot.TableOf.mk (by decide) ?_ ?_
    · simp [slots, statementsSlot, latestAndTags, latestAndTagsEntries, OfText, OfList,
        latest_writtenAs, tags_writtenAs]
    · simp [slots, statementsSlot, latestAndTagsEntries]
  have hadds : AddsKey SortKey.shape.names "nulls" (.table [("column", .string "id")])
      (.table [("column", .string "id"), ("nulls", .string "last")]) :=
    .table [("column", .string "id")] [] (.string "last") (by decide)
  have hlatest : NamedStatement.GetsKey "nulls" SortKey.shape.names
      (.table (latestEntries (.table [("column", .string "id")])))
      (.table (latestEntries (.table [("column", .string "id"), ("nulls", .string "last")]))) :=
    .sortKey (.table [("table", .string "photos"), ("limit", .array [.integer 5])]
      [("kind", .string "select"), ("name", .string "latest")] (.array [] [] hadds))
  have hread := written_read_back hwritten
  refine ⟨hwritten, hread.1, hread.2 "nulls" SortKey.shape.names _ ?_⟩
  exact .statement (.table [] [("version", .string "1")] (.array [] [.array tagsItems] hlatest))

end Config

end SqlStatement
