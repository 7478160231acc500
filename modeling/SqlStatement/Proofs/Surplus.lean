import SqlStatement.Proofs.WrittenConfig

/-! # What documents hold beyond their records

Every key of a table has to be declared, or the document is refused. An array may go on
behind the last place of its record: what stands there is passed over, whatever it is.
So a document is accepted exactly if it is written as a configuration once these items
are left out, and nothing else in it is passed over.
-/

namespace SqlStatement

open Toml (Value)
open Toml.Value

def Toml.Value.items : Value → List Value
  | .array items => items
  | _ => []

def KeysDeclared (names : List String) : Value → Prop
  | .table entries => ∀ entry ∈ entries, entry.1 ∈ names
  | _ => True

/-- An array has no item without a name for its place. -/
def PlacesDeclared (names : List String) : Value → Prop
  | .array items => items.length ≤ names.length
  | _ => True

theorem cutItems_eq_self_iff {cut : Value → Value} {value : Value} :
    cutItems cut value = value ↔ ∀ item ∈ value.items, cut item = item := by
  cases value with
  | array values => rw [cutItems, Value.array.injEq, map_eq_self_iff, Value.items]
  | _ => simp [cutItems, Value.items]

namespace Shape

variable {α : Type} {shape : Shape α} {value : Value} {record : α}

def pairs (shape : Shape α) : Value → List (String × Value)
  | .table entries => entries
  | .array items => shape.names.zip items
  | _ => []

/-- The items that a value for a record has in the arrays of one field. -/
def itemsOf (shape : Shape α) (name : String) (value : Value) : List Value :=
  (shape.pairs value).flatMap fun pair => if pair.1 = name then pair.2.items else []

theorem mem_itemsOf_iff {name : String} {item : Value} :
    item ∈ shape.itemsOf name value ↔
      ∃ pair ∈ shape.pairs value, pair.1 = name ∧ item ∈ pair.2.items := by
  rw [itemsOf, List.mem_flatMap]
  apply exists_congr
  intro pair
  by_cases hname : pair.1 = name <;> simp [hname]

/-! ## Items behind the last place -/

theorem cut_eq_self_iff {inner : String → Value → Value} :
    shape.cut inner value = value ↔
      PlacesDeclared shape.names value ∧
        ∀ pair ∈ shape.pairs value, inner pair.1 pair.2 = pair.2 := by
  cases value with
  | table entries =>
      simp [cut, cutEntries, PlacesDeclared, pairs, map_eq_self_iff, Prod.ext_iff]
  | array items => rw [cut, Value.array.injEq, zipWith_eq_self_iff, PlacesDeclared, pairs]
  | _ => simp [cut, PlacesDeclared, pairs]

theorem cut_cutItemsOf_eq_self_iff {name : String} {cut : Value → Value} :
    shape.cut (cutItemsOf name cut) value = value ↔
      PlacesDeclared shape.names value ∧ ∀ item ∈ shape.itemsOf name value, cut item = item := by
  rw [cut_eq_self_iff]
  apply and_congr_right
  intro _
  simp only [mem_itemsOf_iff]
  constructor
  · rintro hpairs item ⟨pair, hpair, rfl, hitem⟩
    have hcut := hpairs pair hpair
    rw [cutItemsOf, if_pos rfl, cutItems_eq_self_iff] at hcut
    exact hcut item hitem
  · intro hitems pair hpair
    rw [cutItemsOf]
    split
    · next hname =>
        rw [cutItems_eq_self_iff]
        exact fun item hitem => hitems item ⟨pair, hpair, hname, hitem⟩
    · rfl

/-! ## Keys -/

theorem exists_readEntry {start : α} {entries : List (String × Value)}
    (hread : shape.readEntries start entries = .ok record) :
    ∀ entry ∈ entries, ∃ before after, shape.readEntry before entry = .ok after := by
  induction entries generalizing start with
  | nil => exact fun _ hentry => absurd hentry List.not_mem_nil
  | cons entry rest ih =>
      rw [readEntries, bind_eq_ok_iff] at hread
      obtain ⟨next, hnext, hread⟩ := hread
      exact List.forall_mem_cons.mpr ⟨⟨start, next, hnext⟩, ih hread⟩

theorem HasSlots.exists_readEntry_of_read {slots : List (Slot α)} {cut : String → Value → Value}
    (h : shape.HasSlots slots cut) (hread : shape.read value = .ok record) :
    ∀ pair ∈ shape.pairs value, ∃ before after, shape.readEntry before pair = .ok after := by
  cases value with
  | table entries =>
      have hentries := exists_readEntry ((ofTable_eq_ok_iff shape entries record).mp hread).1
      exact fun entry hentry => hentries entry (mem_sortedByKey.mpr hentry)
  | array items => exact exists_readEntry ((h.ofArray_eq_ok_iff items record).mp hread).1
  | _ => exact fun _ hpair => absurd hpair List.not_mem_nil

theorem mem_names_of_readEntry {before after : α} {entry : String × Value}
    (hread : shape.readEntry before entry = .ok after) : entry.1 ∈ shape.names := by
  cases hfield : shape.field? entry.1 with
  | none =>
      rw [readEntry, hfield] at hread
      cases hread
  | some field =>
      exact List.mem_map.mpr ⟨field, List.mem_of_find?_eq_some hfield, name_of_field? hfield⟩

theorem HasSlots.keysDeclared_of_read {slots : List (Slot α)} {cut : String → Value → Value}
    (h : shape.HasSlots slots cut) (hread : shape.read value = .ok record) :
    KeysDeclared shape.names value := by
  cases value with
  | table entries =>
      intro entry hentry
      obtain ⟨before, after, hentry⟩ := h.exists_readEntry_of_read hread entry hentry
      exact mem_names_of_readEntry hentry
  | _ => trivial

/-- Where a field holds a list, each of its items has been read. -/
theorem HasSlots.exists_read_of_mem_itemsOf {slots : List (Slot α)}
    {cut : String → Value → Value} (h : shape.HasSlots slots cut) {name : String} {ι : Type}
    {readItem : Value → Except Misfit ι} (hlist : shape.ReadsList name readItem)
    (hread : shape.read value = .ok record) :
    ∀ item ∈ shape.itemsOf name value, ∃ read, readItem item = .ok read := by
  intro item hitem
  obtain ⟨⟨_, inner⟩, hpair, rfl, hinner⟩ := mem_itemsOf_iff.mp hitem
  obtain ⟨before, after, hentry⟩ := h.exists_readEntry_of_read hread _ hpair
  obtain ⟨put, hput⟩ := hlist
  rw [hput, bind_eq_ok_iff] at hentry
  obtain ⟨items, hitems, -⟩ := hentry
  cases inner with
  | array values =>
      rw [readList, readItems_eq_mapM, mapM_eq_ok_iff] at hitems
      obtain ⟨read, -, hread⟩ := exists_mem_of_forall₂ hitems hinner
      exact ⟨read, hread⟩
  | _ => cases hinner

end Shape

namespace Config

/-- A condition on names and values, for a document and all statements and sort keys in it. -/
structure Throughout (P : List String → Value → Prop) (entries : List (String × Value)) :
    Prop where
  root : P shape.names (.table entries)
  statements : ∀ statement ∈ shape.itemsOf "statements" (.table entries),
    P NamedStatement.shape.names statement
  sortKeys : ∀ statement ∈ shape.itemsOf "statements" (.table entries),
    ∀ key ∈ NamedStatement.shape.itemsOf "order_by" statement, P SortKey.shape.names key

theorem throughout_keysDeclared {config : Config} {entries : List (String × Value)}
    (hread : shape.ofTable entries = .ok config) : Throughout KeysDeclared entries := by
  have hstatements : ∀ item ∈ shape.itemsOf "statements" (.table entries),
      ∃ statement, NamedStatement.shape.read item = .ok statement :=
    hasSlots.exists_read_of_mem_itemsOf readsList_statements hread
  refine ⟨hasSlots.keysDeclared_of_read hread, fun item hitem => ?_, fun item hitem key hkey => ?_⟩
  · obtain ⟨statement, hstatement⟩ := hstatements item hitem
    exact NamedStatement.hasSlots.keysDeclared_of_read hstatement
  · obtain ⟨statement, hstatement⟩ := hstatements item hitem
    obtain ⟨sortKey, hsortKey⟩ := NamedStatement.hasSlots.exists_read_of_mem_itemsOf
      NamedStatement.readsList_sortKeys hstatement key hkey
    exact SortKey.hasSlots.keysDeclared_of_read hsortKey

theorem throughout_placesDeclared_iff {entries : List (String × Value)} :
    Throughout PlacesDeclared entries ↔ cut entries = entries := by
  have hroot : cut entries = entries ↔
      ∀ item ∈ shape.itemsOf "statements" (.table entries), NamedStatement.cut item = item := by
    rw [← Value.table.injEq]
    show shape.cut cutField (.table entries) = .table entries ↔ _
    rw [cutField, Shape.cut_cutItemsOf_eq_self_iff]
    simp [PlacesDeclared]
  have hkey (key : Value) : SortKey.cut key = key ↔ PlacesDeclared SortKey.shape.names key := by
    rw [SortKey.cut, Shape.cut_eq_self_iff]
    exact and_iff_left fun _ _ => rfl
  rw [hroot]
  simp only [NamedStatement.cut, NamedStatement.cutField, Shape.cut_cutItemsOf_eq_self_iff, hkey]
  constructor
  · intro h item hitem
    exact ⟨h.statements item hitem, h.sortKeys item hitem⟩
  · intro h
    exact ⟨trivial, fun item hitem => (h item hitem).1, fun item hitem => (h item hitem).2⟩

theorem ofTable_eq_ok_iff_writtenAs {config : Config} {entries : List (String × Value)}
    (hkeys : (Value.table entries).DistinctKeys) :
    shape.ofTable entries = .ok config ↔ config.WrittenAs (cut entries) := by
  constructor
  · intro hread
    cases hkeys with
    | scalar _ htable => exact absurd rfl (htable entries)
    | table hdistinct hentries => exact hasSlots.tableOf_of_ofTable hdistinct hentries hread
  · intro hwritten
    rw [← hasSlots.ofTable_cutEntries]
    exact hasSlots.ofTable_of_tableOf hwritten

theorem writtenAs_iff_ofTable {config : Config} {entries : List (String × Value)}
    (hkeys : (Value.table entries).DistinctKeys) :
    config.WrittenAs entries ↔
      shape.ofTable entries = .ok config ∧ Throughout PlacesDeclared entries := by
  rw [throughout_placesDeclared_iff]
  constructor
  · intro hwritten
    exact ⟨hasSlots.ofTable_of_tableOf hwritten, hasSlots.cutEntries_of_tableOf hwritten⟩
  · rintro ⟨hread, hwhole⟩
    rwa [ofTable_eq_ok_iff_writtenAs hkeys, hwhole] at hread

/-- In a document that is read as a configuration every key is declared, and what it holds beyond
the configuration are items of arrays without a place: nothing depends on them, without them it
is written as the configuration, and it is written so itself exactly if it has none. -/
theorem surplus_only_behind_places (config : Config) (entries : List (String × Value)) :
    (shape.ofTable entries = .ok config → Throughout KeysDeclared entries) ∧
      (Throughout PlacesDeclared entries ↔ cut entries = entries) ∧
      shape.ofTable (cut entries) = shape.ofTable entries ∧
      ((Value.table entries).DistinctKeys →
        (shape.ofTable entries = .ok config ↔ config.WrittenAs (cut entries)) ∧
        (shape.ofTable entries = .ok config ∧ Throughout PlacesDeclared entries ↔
          config.WrittenAs entries)) :=
  ⟨throughout_keysDeclared, throughout_placesDeclared_iff, hasSlots.ofTable_cutEntries entries,
    fun hkeys => ⟨ofTable_eq_ok_iff_writtenAs hkeys, (writtenAs_iff_ofTable hkeys).symm⟩⟩

/-! ### An item behind the limits -/

def unlimited : Config where
  version := "1"
  statements := [{ name := "a", kind := .select, table := "t", columns := some ["x"] }]

def unlimitedItems : List Value := [
  .string "a", .string "select", .string "t", .array [.string "x"], .array [], .array [],
  .array [], .array []]

def unlimitedEntries (behind : List Value) : List (String × Value) := [
  ("statements", .array [.array (unlimitedItems ++ behind)]), ("version", .string "1")]

theorem ofTable_unlimitedEntries :
    shape.ofTable (unlimitedEntries [.string "extra"]) = .ok unlimited := by
  rw [Shape.ofTable, unlimitedEntries, sortedByKey_of_pairwise (by decide)]
  rfl

/-- A document is accepted although a statement in it has nine items for eight places. -/
theorem not_forall_placesDeclared :
    ¬ ∀ config entries, shape.ofTable entries = .ok config →
      Throughout KeysDeclared entries ∧ Throughout PlacesDeclared entries := by
  intro h
  have hplaces := (h _ _ ofTable_unlimitedEntries).2
  have hlength : PlacesDeclared NamedStatement.shape.names
      (.array (unlimitedItems ++ [Value.string "extra"])) :=
    hplaces.statements _ List.mem_cons_self
  rw [PlacesDeclared] at hlength
  exact absurd hlength (by decide)

/-- What stands behind the limits is left out, and the rest is written as the configuration. -/
theorem surplus_only_behind_places_unlimited :
    (Value.table (unlimitedEntries [.string "extra"])).DistinctKeys ∧
      cut (unlimitedEntries [.string "extra"]) = unlimitedEntries [] ∧
      unlimited.WrittenAs (unlimitedEntries []) := by
  have htext (text : String) : (Value.string text).DistinctKeys := .scalar nofun nofun
  have hempty : (Value.array []).DistinctKeys := .array nofun
  have hcolumns : (Value.array [.string "x"]).DistinctKeys := .array (by simp [htext])
  have hstatement : (Value.array (unlimitedItems ++ [.string "extra"])).DistinctKeys :=
    .array (by simp [unlimitedItems, htext, hempty, hcolumns])
  have hkeys : (Value.table (unlimitedEntries [.string "extra"])).DistinctKeys :=
    .table (by decide) (by simp [unlimitedEntries, htext, DistinctKeys.array, hstatement])
  have hread := surplus_only_behind_places unlimited (unlimitedEntries [.string "extra"])
  exact ⟨hkeys, rfl, (hread.2.2.2 hkeys).1.mp ofTable_unlimitedEntries⟩

end Config

end SqlStatement
