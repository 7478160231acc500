import SqlStatement.Proofs.Slots

/-! # Reading the values of records

A table is read entry by entry in the order of its keys, an array place by place. Each
of the two gives back a record exactly from the values that show it, where the fields of
the shape fill its slots. What stands behind the last place of an array is passed over.
-/

namespace SqlStatement

open Toml (Value)

theorem map_fst_zip_eq_take {ι κ : Type*} (xs : List ι) (ys : List κ) :
    (xs.zip ys).map Prod.fst = xs.take ys.length := by
  induction xs generalizing ys with
  | nil => rw [List.zip_nil_left, List.take_nil, List.map_nil]
  | cons x xs ih =>
      cases ys with
      | nil => rfl
      | cons y ys =>
          rw [List.zip_cons_cons, List.map_cons, ih, List.length_cons, List.take_succ_cons]

theorem zip_zipWith {ι κ : Type*} (f : ι → κ → κ) (xs : List ι) (ys : List κ) :
    xs.zip (xs.zipWith f ys) = (xs.zip ys).map fun pair => (pair.1, f pair.1 pair.2) := by
  induction xs generalizing ys with
  | nil => rfl
  | cons x xs ih =>
      cases ys with
      | nil => rfl
      | cons y ys =>
          rw [List.zipWith_cons_cons, List.zip_cons_cons, List.zip_cons_cons, List.map_cons, ih]

theorem zipWith_eq_self_iff {ι κ : Type*} {f : ι → κ → κ} {xs : List ι} {ys : List κ} :
    xs.zipWith f ys = ys ↔
      ys.length ≤ xs.length ∧ ∀ pair ∈ xs.zip ys, f pair.1 pair.2 = pair.2 := by
  induction xs generalizing ys with
  | nil => cases ys <;> simp
  | cons x xs ih =>
      cases ys with
      | nil => simp
      | cons y ys =>
          rw [List.zipWith_cons_cons, List.cons.injEq, ih, List.zip_cons_cons,
            List.forall_mem_cons, List.length_cons, List.length_cons, Nat.add_le_add_iff_right,
            and_left_comm]

/-! ## Sorted entries -/

theorem mem_sortedByKey {entries : List (String × Value)} {entry : String × Value} :
    entry ∈ sortedByKey entries ↔ entry ∈ entries :=
  List.mem_mergeSort

theorem mem_keys_sortedByKey {entries : List (String × Value)} {key : String} :
    key ∈ (sortedByKey entries).map Prod.fst ↔ key ∈ entries.map Prod.fst := by
  simp only [List.mem_map, mem_sortedByKey]

namespace Shape

variable {α : Type}

theorem sortedByKey_cutEntries (inner : String → Value → Value)
    (entries : List (String × Value)) :
    sortedByKey (cutEntries inner entries) = cutEntries inner (sortedByKey entries) := by
  rw [sortedByKey, cutEntries, cutEntries, sortedByKey, List.map_mergeSort]
  intro a _ b _
  rfl

theorem missing?_cutEntries (shape : Shape α) (inner : String → Value → Value)
    (entries : List (String × Value)) :
    shape.missing? (cutEntries inner entries) = shape.missing? entries := by
  simp [missing?, cutEntries, List.any_map, Function.comp_def]

theorem ofTable_eq_ok_iff (shape : Shape α) (entries : List (String × Value)) (record : α) :
    shape.ofTable entries = .ok record ↔
      shape.readEntries shape.blank (sortedByKey entries) = .ok record ∧
        shape.missing? entries = none := by
  rw [ofTable, bind_eq_ok_iff]
  cases shape.missing? entries <;> simp [pure, Except.pure]

end Shape

namespace Shape.HasSlots

variable {α : Type} {shape : Shape α} {slots : List (Slot α)} {cut : String → Value → Value}
  {record : α} {entry : String × Value} {entries : List (String × Value)}

/-! ## Tables -/

theorem missing?_eq_none_iff (h : shape.HasSlots slots cut) (entries : List (String × Value)) :
    shape.missing? entries = none ↔
      ∀ slot ∈ slots, slot.name ∉ entries.map Prod.fst → slot.default? ≠ none := by
  rw [missing?, List.find?_eq_none]
  apply forall_mem_iff_of_forall₂ h.fills
  intro field slot hfills
  rw [hfills.required, hfills.name]
  cases slot.default? <;> simp

theorem ofTable_of_tableOf (h : shape.HasSlots slots cut)
    (htable : Slot.TableOf slots record entries) : shape.ofTable entries = .ok record := by
  rw [ofTable_eq_ok_iff, h.missing?_eq_none_iff]
  constructor
  · apply h.readEntries_of_taken
    refine ⟨fun entry hentry => htable.shown entry (mem_sortedByKey.mp hentry), ?_⟩
    intro slot hslot hmissing
    rw [mem_keys_sortedByKey] at hmissing
    exact (h.default slot hslot _ (htable.omitted slot hslot hmissing)).symm
  · intro slot hslot hmissing
    rw [htable.omitted slot hslot hmissing]
    exact Option.some_ne_none _

theorem tableOf_of_ofTable (h : shape.HasSlots slots cut)
    (hdistinct : (entries.map Prod.fst).Nodup) (hkeys : ∀ entry ∈ entries, entry.2.DistinctKeys)
    (hread : shape.ofTable entries = .ok record) :
    Slot.TableOf slots record (cutEntries cut entries) := by
  obtain ⟨hread, hmissing⟩ := (ofTable_eq_ok_iff shape entries record).mp hread
  rw [h.missing?_eq_none_iff] at hmissing
  have hsorted : ((sortedByKey entries).map Prod.fst).Nodup :=
    ((List.mergeSort_perm entries _).map Prod.fst).nodup_iff.mpr hdistinct
  have htaken := h.taken_of_readEntries hsorted
    (fun entry hentry => hkeys entry (mem_sortedByKey.mp hentry)) hread
  rw [← sortedByKey_cutEntries] at htaken
  refine ⟨by rwa [keys_cutEntries], fun entry hentry => ?_, fun slot hslot homitted => ?_⟩
  · exact htaken.shown entry (mem_sortedByKey.mpr hentry)
  · have hkept := htaken.kept slot hslot (mt mem_keys_sortedByKey.mp homitted)
    rw [keys_cutEntries] at homitted
    obtain ⟨item, hitem⟩ := Option.ne_none_iff_exists'.mp (hmissing slot hslot homitted)
    rw [hitem, hkept, h.default slot hslot item hitem]

theorem ofTable_cutEntries (h : shape.HasSlots slots cut) (entries : List (String × Value)) :
    shape.ofTable (cutEntries cut entries) = shape.ofTable entries := by
  rw [ofTable, ofTable, sortedByKey_cutEntries, h.readEntries_cutEntries, missing?_cutEntries]

theorem cutEntries_of_tableOf (h : shape.HasSlots slots cut)
    (htable : Slot.TableOf slots record entries) : cutEntries cut entries = entries := by
  rw [cutEntries, map_eq_self_iff]
  intro entry hentry
  obtain ⟨slot, hslot, hname, hshows⟩ := htable.shown entry hentry
  exact Prod.ext rfl (h.cut_of_shows hslot hname hshows)

/-! ## Arrays -/

theorem readPlaces_eq_readEntries (h : shape.HasSlots slots cut) {fields : List (Field α)}
    (hfields : fields ⊆ shape.fields) (start : α) (items : List Value) :
    readPlaces start fields items =
      shape.readEntries start ((fields.map Field.name).zip items) := by
  induction fields generalizing start items with
  | nil => rfl
  | cons field fields ih =>
      obtain ⟨hfield, hfields⟩ := List.cons_subset.mp hfields
      cases items with
      | nil => rfl
      | cons item items =>
          have hentry : shape.readEntry start (field.name, item) = field.read start item := by
            rw [readEntry, h.field?_name hfield]
          rw [readPlaces, List.map_cons, List.zip_cons_cons, readEntries, hentry]
          cases field.read start item with
          | error misfit => rfl
          | ok next => exact ih hfields next items

theorem missingPlace?_eq_none_iff (h : shape.HasSlots slots cut) (length : Nat) :
    shape.missingPlace? length = none ↔
      ∀ slot ∈ slots.drop length, slot.placeDefault? ≠ none := by
  rw [missingPlace?, Option.map_eq_none_iff, List.findIdx?_eq_none_iff]
  apply forall_mem_iff_of_forall₂ (List.forall₂_drop length h.fills)
  intro field slot hfills
  rw [hfills.requiredPlace]
  cases slot.placeDefault? <;> simp

theorem ofArray_eq_ok_iff (h : shape.HasSlots slots cut) (items : List Value) (record : α) :
    shape.ofArray items = .ok record ↔
      shape.readEntries shape.blank (shape.names.zip items) = .ok record ∧
        ∀ slot ∈ slots.drop items.length, slot.placeDefault? ≠ none := by
  rw [ofArray, h.readPlaces_eq_readEntries (List.Subset.refl _),
    ← h.missingPlace?_eq_none_iff, bind_eq_ok_iff, names]
  cases shape.missingPlace? items.length <;> simp [pure, Except.pure]

/-- The places that an array does not reach. -/
theorem mem_drop_iff (h : shape.HasSlots slots cut) {slot : Slot α} (hslot : slot ∈ slots)
    (items : List Value) :
    slot ∈ slots.drop items.length ↔ slot.name ∉ (shape.names.zip items).map Prod.fst := by
  rw [map_fst_zip_eq_take, h.names_eq, ← List.map_take]
  constructor
  · intro hdrop htake
    obtain ⟨other, hother, hname⟩ := List.mem_map.mp htake
    obtain rfl := h.eq_of_name_eq (List.mem_of_mem_take hother) hslot hname
    exact List.disjoint_take_drop h.lawful.distinct.of_map (Nat.le_refl _) hother hdrop
  · intro hfresh
    rw [← List.take_append_drop items.length slots, List.mem_append] at hslot
    exact hslot.resolve_left fun htake => hfresh (List.mem_map_of_mem htake)

theorem mem_names_zip_iff (h : shape.HasSlots slots cut) (items : List Value) :
    entry ∈ shape.names.zip items ↔
      ∃ pair ∈ slots.zip items, (pair.1.name, pair.2) = entry := by
  rw [h.names_eq, List.zip_map_left, List.mem_map]
  rfl

theorem ofArray_of_arrayOf (h : shape.HasSlots slots cut) {items : List Value}
    (harray : Slot.ArrayOf slots record items) : shape.ofArray items = .ok record := by
  rw [h.ofArray_eq_ok_iff]
  constructor
  · apply h.readEntries_of_taken
    constructor
    · intro entry hentry
      obtain ⟨pair, hpair, rfl⟩ := (h.mem_names_zip_iff items).mp hentry
      exact ⟨pair.1, (List.of_mem_zip hpair).1, rfl, harray.shown pair hpair⟩
    · intro slot hslot hmissing
      rw [← h.mem_drop_iff hslot] at hmissing
      exact (h.placeDefault slot hslot _ (harray.omitted slot hmissing)).symm
  · intro slot hslot
    rw [harray.omitted slot hslot]
    exact Option.some_ne_none _

theorem arrayOf_of_ofArray (h : shape.HasSlots slots cut) {items : List Value}
    (hkeys : ∀ item ∈ items, item.DistinctKeys) (hread : shape.ofArray items = .ok record) :
    Slot.ArrayOf slots record (shape.names.zipWith cut items) := by
  obtain ⟨hread, hdefaults⟩ := (h.ofArray_eq_ok_iff items record).mp hread
  have hdistinct : ((shape.names.zip items).map Prod.fst).Nodup := by
    rw [map_fst_zip_eq_take, h.names_eq]
    exact h.lawful.distinct.sublist (List.take_sublist _ _)
  have htaken := h.taken_of_readEntries hdistinct
    (fun entry hentry => hkeys entry.2 (List.of_mem_zip hentry).2) hread
  rw [cutEntries, ← zip_zipWith] at htaken
  refine ⟨?_, fun pair hpair => ?_, fun slot hdrop => ?_⟩
  · rw [List.length_zipWith, h.names_eq, List.length_map]
    exact Nat.min_le_left _ _
  · have hentry := (h.mem_names_zip_iff _).mpr ⟨pair, hpair, rfl⟩
    obtain ⟨slot, hslot, hname, hshows⟩ := htaken.shown _ hentry
    obtain rfl := h.eq_of_name_eq hslot (List.of_mem_zip hpair).1 hname
    exact hshows
  · have hslot := List.mem_of_mem_drop hdrop
    rw [h.mem_drop_iff hslot] at hdrop
    have hkept := htaken.kept slot hslot hdrop
    rw [zip_zipWith, ← cutEntries, keys_cutEntries, ← h.mem_drop_iff hslot] at hdrop
    obtain ⟨item, hitem⟩ := Option.ne_none_iff_exists'.mp (hdefaults slot hdrop)
    rw [hitem, hkept, h.placeDefault slot hslot item hitem]

theorem ofArray_zipWith_cut (h : shape.HasSlots slots cut) (items : List Value) :
    shape.ofArray (shape.names.zipWith cut items) = shape.ofArray items := by
  -- Behind the last place there is nothing that could be missing.
  have hplace : shape.missingPlace? (shape.names.zipWith cut items).length =
      shape.missingPlace? items.length := by
    rw [missingPlace?, missingPlace?, List.length_zipWith, names, List.length_map]
    rcases Nat.le_total items.length shape.fields.length with hshort | hlong
    · rw [Nat.min_eq_right hshort]
    · rw [Nat.min_eq_left hlong, List.drop_length, List.drop_eq_nil_of_le hlong]
      rfl
  have hplaces := h.readPlaces_eq_readEntries (List.Subset.refl _) shape.blank
  rw [ofArray, ofArray, hplace, hplaces, hplaces, ← names, zip_zipWith, ← cutEntries,
    h.readEntries_cutEntries]

theorem zipWith_cut_of_arrayOf (h : shape.HasSlots slots cut) {items : List Value}
    (harray : Slot.ArrayOf slots record items) : shape.names.zipWith cut items = items := by
  rw [zipWith_eq_self_iff]
  constructor
  · rw [h.names_eq, List.length_map]
    exact harray.length
  · intro entry hentry
    obtain ⟨pair, hpair, rfl⟩ := (h.mem_names_zip_iff items).mp hentry
    exact h.cut_of_shows (List.of_mem_zip hpair).1 rfl (harray.shown pair hpair)

/-! ## Values for records -/

/-- The reader of a shape gives back the records that values show. -/
theorem readsAs (h : shape.HasSlots slots cut) :
    ReadsAs shape.read (Slot.RecordOf slots) (shape.cut cut) where
  read_of_shows {record value} hshows := by
    cases value with
    | table entries => exact h.ofTable_of_tableOf hshows
    | array items => exact h.ofArray_of_arrayOf hshows
    | _ => cases hshows
  shows_of_read {record value} hkeys hread := by
    cases hkeys with
    | table hdistinct hentries => exact h.tableOf_of_ofTable hdistinct hentries hread
    | array hitems => exact h.arrayOf_of_ofArray hitems hread
    | scalar harray htable =>
        cases value with
        | table entries => exact absurd rfl (htable entries)
        | array items => exact absurd rfl (harray items)
        | moment text => cases hread
        | _ => exact absurd hread (Toml.Value.refuse_ne_ok _ _ record)
  read_cut value := by
    cases value with
    | table entries => exact h.ofTable_cutEntries entries
    | array items => exact h.ofArray_zipWith_cut items
    | _ => rfl
  cut_of_shows {record value} hshows := by
    cases value with
    | table entries => exact congrArg Value.table (h.cutEntries_of_tableOf hshows)
    | array items => exact congrArg Value.array (h.zipWith_cut_of_arrayOf hshows)
    | _ => rfl

end Shape.HasSlots

end SqlStatement
