import Mathlib.Data.List.Forall2
import Mathlib.Data.List.Nodup
import SqlStatement.Config.Shape
import SqlStatement.Proofs.Traversal

/-! # Records as documents write them

A slot is a field of a record as a document sees it: the key it stands under, the
values that stand for it, and what it is where it is left out. From its slots follows
how a record is written, as a table with keys in any order or as an array in the order
of the slots, and a shape whose fields fill the slots reads back what was written.
-/

namespace SqlStatement

open Toml (Value)

inductive Toml.Value.DistinctKeys : Value → Prop
  | scalar {value : Value} (harray : ∀ items, value ≠ .array items)
      (htable : ∀ entries, value ≠ .table entries) : DistinctKeys value
  | array {items} (hitems : ∀ item ∈ items, DistinctKeys item) : DistinctKeys (.array items)
  | table {entries : List (String × Value)} (hkeys : (entries.map Prod.fst).Nodup)
      (hentries : ∀ entry ∈ entries, DistinctKeys entry.2) : DistinctKeys (.table entries)

theorem Toml.Value.refuse_ne_ok {ι : Type} (value : Value) (expected : Expected) (item : ι) :
    value.refuse expected ≠ .ok item := by
  rw [refuse]
  cases value.found with
  | error misfit => simp [bind, Except.bind]
  | ok found => simp [bind, Except.bind]

/-- A reader gives back what a value shows. Some parts of a value may be passed over: without
them it is read as before, and then it shows what is read. A value that shows something has no
such parts. -/
structure ReadsAs {ι : Type} (read : Value → Except Misfit ι) (Shows : ι → Value → Prop)
    (cut : Value → Value) : Prop where
  read_of_shows {item : ι} {value : Value} (h : Shows item value) : read value = .ok item
  shows_of_read {item : ι} {value : Value} (hkeys : value.DistinctKeys)
    (h : read value = .ok item) : Shows item (cut value)
  read_cut (value : Value) : read (cut value) = read value
  cut_of_shows {item : ι} {value : Value} (h : Shows item value) : cut value = value

/-- A field of a record, as a document sees it. -/
structure Slot (α : Type) where
  name : String
  Item : Type
  /-- What a record has in the field. -/
  item : α → Item
  put : α → Item → α
  /-- The values that stand for an item. -/
  Shows : Item → Value → Prop
  /-- The item of a table without the key; none if the key must be there. -/
  default? : Option Item
  /-- The item of an array that is over before the place; none if the place must be there. -/
  placeDefault? : Option Item

namespace Slot

variable {α : Type}

/-- The keys, in any order, each with a value for what the record has there.  A key may be
missing where the record has the default. -/
structure TableOf (slots : List (Slot α)) (record : α) (entries : List (String × Value)) :
    Prop where
  distinct : (entries.map Prod.fst).Nodup
  shown : ∀ entry ∈ entries, ∃ slot ∈ slots, slot.name = entry.1 ∧
    slot.Shows (slot.item record) entry.2
  omitted : ∀ slot ∈ slots, slot.name ∉ entries.map Prod.fst →
    slot.default? = some (slot.item record)

/-- The places in order, each with a value for what the record has there.  The array may be over
where the record has defaults from there on. -/
structure ArrayOf (slots : List (Slot α)) (record : α) (items : List Value) : Prop where
  length : items.length ≤ slots.length
  shown : ∀ pair ∈ slots.zip items, pair.1.Shows (pair.1.item record) pair.2
  omitted : ∀ slot ∈ slots.drop items.length, slot.placeDefault? = some (slot.item record)

def RecordOf (slots : List (Slot α)) (record : α) : Value → Prop
  | .table entries => TableOf slots record entries
  | .array items => ArrayOf slots record items
  | _ => False

/-- The slots do not touch each other, and together they make up the record. -/
structure Lawful (slots : List (Slot α)) : Prop where
  distinct : (slots.map name).Nodup
  item_put : ∀ slot ∈ slots, ∀ record item, slot.item (slot.put record item) = item
  item_put_of_ne : ∀ slot ∈ slots, ∀ other ∈ slots, other.name ≠ slot.name →
    ∀ record item, other.item (slot.put record item) = other.item record
  ext : ∀ record other, (∀ slot ∈ slots, slot.item record = slot.item other) → record = other

/-- A record is another one with entries taken over. -/
structure Taken (slots : List (Slot α)) (start record : α) (entries : List (String × Value)) :
    Prop where
  shown : ∀ entry ∈ entries, ∃ slot ∈ slots, slot.name = entry.1 ∧
    slot.Shows (slot.item record) entry.2
  kept : ∀ slot ∈ slots, slot.name ∉ entries.map Prod.fst → slot.item record = slot.item start

end Slot

structure Field.Fills {α : Type} (field : Field α) (slot : Slot α) (cut : Value → Value) :
    Prop where
  name : field.name = slot.name
  required : field.required = slot.default?.isNone
  requiredPlace : field.requiredPlace = slot.placeDefault?.isNone
  read : ∃ read, ReadsAs read slot.Shows cut ∧
    ∀ record value, field.read record value = (do return slot.put record (← read value))

structure Shape.HasSlots {α : Type} (shape : Shape α) (slots : List (Slot α))
    (cut : String → Value → Value) : Prop where
  lawful : Slot.Lawful slots
  fills : List.Forall₂ (fun field slot => field.Fills slot (cut slot.name)) shape.fields slots
  default : ∀ slot ∈ slots, ∀ item, slot.default? = some item → slot.item shape.blank = item
  placeDefault : ∀ slot ∈ slots, ∀ item, slot.placeDefault? = some item →
    slot.item shape.blank = item

namespace Shape

def cutEntries (inner : String → Value → Value) (entries : List (String × Value)) :
    List (String × Value) :=
  entries.map fun entry => (entry.1, inner entry.1 entry.2)

/-- A value for a record without what reading passes over: in its fields, and behind the last
place of an array. -/
def cut {α : Type} (shape : Shape α) (inner : String → Value → Value) : Value → Value
  | .table entries => .table (cutEntries inner entries)
  | .array items => .array (shape.names.zipWith inner items)
  | value => value

theorem name_of_field? {α : Type} {shape : Shape α} {name : String} {field : Field α}
    (hfield : shape.field? name = some field) : field.name = name := by
  simpa using List.find?_some hfield

theorem keys_cutEntries (inner : String → Value → Value) (entries : List (String × Value)) :
    (cutEntries inner entries).map Prod.fst = entries.map Prod.fst := by
  rw [cutEntries, List.map_map]
  rfl

end Shape

/-! ## Single fields -/

namespace Field.Fills

variable {α : Type} {field : Field α} {slot : Slot α} {cut : Value → Value}

theorem read_of_shows (h : field.Fills slot cut) {item : slot.Item} {value : Value}
    (hshows : slot.Shows item value) (record : α) :
    field.read record value = .ok (slot.put record item) := by
  obtain ⟨read, hreads, hread⟩ := h.read
  rw [hread, hreads.read_of_shows hshows]
  rfl

theorem shows_of_read (h : field.Fills slot cut) {record next : α} {value : Value}
    (hkeys : value.DistinctKeys) (hnext : field.read record value = .ok next) :
    ∃ item, slot.Shows item (cut value) ∧ next = slot.put record item := by
  obtain ⟨read, hreads, hread⟩ := h.read
  rw [hread, bind_eq_ok_iff] at hnext
  obtain ⟨item, hitem, hput⟩ := hnext
  exact ⟨item, hreads.shows_of_read hkeys hitem, (Except.ok.inj hput).symm⟩

theorem read_cut (h : field.Fills slot cut) (record : α) (value : Value) :
    field.read record (cut value) = field.read record value := by
  obtain ⟨read, hreads, hread⟩ := h.read
  rw [hread, hread, hreads.read_cut]

theorem cut_of_shows (h : field.Fills slot cut) {item : slot.Item} {value : Value}
    (hshows : slot.Shows item value) : cut value = value := by
  obtain ⟨read, hreads, -⟩ := h.read
  exact hreads.cut_of_shows hshows

end Field.Fills

/-! ## Two lists side by side -/

theorem map_eq_self_iff {ι : Type*} {f : ι → ι} {xs : List ι} :
    xs.map f = xs ↔ ∀ x ∈ xs, f x = x := by
  nth_rewrite 2 [← List.map_id xs]
  exact List.map_inj_left

section Forall₂

variable {ι κ : Type*} {R : ι → κ → Prop} {xs : List ι} {ys : List κ}

theorem forall_mem_iff_of_forall₂ {P : ι → Prop} {Q : κ → Prop} (h : List.Forall₂ R xs ys)
    (hiff : ∀ x y, R x y → (P x ↔ Q y)) : (∀ x ∈ xs, P x) ↔ ∀ y ∈ ys, Q y := by
  induction h with
  | nil => simp
  | cons hhead _ ih => rw [List.forall_mem_cons, List.forall_mem_cons, hiff _ _ hhead, ih]

theorem exists_mem_of_forall₂ (h : List.Forall₂ R xs ys) {x : ι} (hx : x ∈ xs) :
    ∃ y ∈ ys, R x y := by
  induction h with
  | nil => cases hx
  | cons hhead _ ih =>
      rcases List.mem_cons.mp hx with rfl | hrest
      · exact ⟨_, List.mem_cons_self, hhead⟩
      · obtain ⟨y, hy, hxy⟩ := ih hrest
        exact ⟨y, List.mem_cons_of_mem _ hy, hxy⟩

end Forall₂

namespace Shape.HasSlots

variable {α : Type} {shape : Shape α} {slots : List (Slot α)} {cut : String → Value → Value}
  {start record next : α} {entry : String × Value} {entries : List (String × Value)}

theorem names_eq (h : shape.HasSlots slots cut) : shape.names = slots.map Slot.name := by
  have hnames : List.Forall₂ (fun field slot => field.name = slot.name) shape.fields slots :=
    h.fills.imp fun _ _ hfills => hfills.name
  rw [← List.forall₂_eq_eq_eq, names, List.forall₂_map_left_iff, List.forall₂_map_right_iff]
  exact hnames

theorem eq_of_name_eq (h : shape.HasSlots slots cut) {slot other : Slot α} (hslot : slot ∈ slots)
    (hother : other ∈ slots) (hname : slot.name = other.name) : slot = other :=
  List.inj_on_of_nodup_map h.lawful.distinct hslot hother hname

theorem field?_name (h : shape.HasSlots slots cut) {field : Field α}
    (hfield : field ∈ shape.fields) : shape.field? field.name = some field := by
  have hdistinct : shape.names.Nodup := h.names_eq ▸ h.lawful.distinct
  have hsome : (shape.field? field.name).isSome := by
    rw [field?, List.find?_isSome]
    exact ⟨field, hfield, by simp⟩
  obtain ⟨found, hfound⟩ := Option.isSome_iff_exists.mp hsome
  rw [hfound, List.inj_on_of_nodup_map hdistinct (List.mem_of_find?_eq_some hfound) hfield
    (name_of_field? hfound)]

/-- The field under the name of a slot fills it. -/
theorem exists_field (h : shape.HasSlots slots cut) {slot : Slot α} (hslot : slot ∈ slots) :
    ∃ field, shape.field? slot.name = some field ∧ field.Fills slot (cut slot.name) := by
  obtain ⟨field, hfield, hfills⟩ := exists_mem_of_forall₂ h.fills.flip hslot
  exact ⟨field, hfills.name ▸ h.field?_name hfield, hfills⟩

theorem exists_slot (h : shape.HasSlots slots cut) {name : String} {field : Field α}
    (hfield : shape.field? name = some field) :
    ∃ slot ∈ slots, slot.name = name ∧ field.Fills slot (cut name) := by
  obtain ⟨slot, hslot, hfills⟩ :=
    exists_mem_of_forall₂ h.fills (List.mem_of_find?_eq_some hfield)
  obtain rfl : slot.name = name := hfills.name.symm.trans (name_of_field? hfield)
  exact ⟨slot, hslot, rfl, hfills⟩

/-! ## Single entries -/

theorem readEntry_of_shows (h : shape.HasSlots slots cut) {slot : Slot α} (hslot : slot ∈ slots)
    (hname : slot.name = entry.1) {item : slot.Item} (hshows : slot.Shows item entry.2)
    (record : α) : shape.readEntry record entry = .ok (slot.put record item) := by
  obtain ⟨field, hfield, hfills⟩ := h.exists_field hslot
  rw [readEntry, ← hname, hfield]
  exact hfills.read_of_shows hshows record

theorem shows_of_readEntry (h : shape.HasSlots slots cut) (hkeys : entry.2.DistinctKeys)
    (hnext : shape.readEntry record entry = .ok next) :
    ∃ slot ∈ slots, slot.name = entry.1 ∧
      ∃ item, slot.Shows item (cut entry.1 entry.2) ∧ next = slot.put record item := by
  cases hfield : shape.field? entry.1 with
  | none =>
      rw [readEntry, hfield] at hnext
      cases hnext
  | some field =>
      rw [readEntry, hfield] at hnext
      obtain ⟨slot, hslot, hname, hfills⟩ := h.exists_slot hfield
      exact ⟨slot, hslot, hname, hfills.shows_of_read hkeys hnext⟩

theorem readEntry_cut (h : shape.HasSlots slots cut) (record : α) (entry : String × Value) :
    shape.readEntry record (entry.1, cut entry.1 entry.2) = shape.readEntry record entry := by
  rw [readEntry, readEntry]
  cases hfield : shape.field? entry.1 with
  | none => rfl
  | some field =>
      obtain ⟨slot, -, -, hfills⟩ := h.exists_slot hfield
      exact hfills.read_cut record entry.2

theorem cut_of_shows (h : shape.HasSlots slots cut) {slot : Slot α} (hslot : slot ∈ slots)
    (hname : slot.name = entry.1) {item : slot.Item} (hshows : slot.Shows item entry.2) :
    cut entry.1 entry.2 = entry.2 := by
  obtain ⟨field, -, hfills⟩ := h.exists_field hslot
  rw [← hname]
  exact hfills.cut_of_shows hshows

/-! ## Entries one after the other -/

theorem readEntries_of_taken (h : shape.HasSlots slots cut)
    (htaken : Slot.Taken slots start record entries) :
    shape.readEntries start entries = .ok record := by
  induction entries generalizing start with
  | nil =>
      have hsame : record = start :=
        h.lawful.ext record start fun slot hslot => htaken.kept slot hslot List.not_mem_nil
      rw [hsame]
      rfl
  | cons entry rest ih =>
      obtain ⟨hentry, hrest⟩ := List.forall_mem_cons.mp htaken.shown
      obtain ⟨slot, hslot, hname, hshows⟩ := hentry
      have hnext : Slot.Taken slots (slot.put start (slot.item record)) record rest := by
        refine ⟨hrest, fun other hother hfresh => ?_⟩
        by_cases hsame : other.name = slot.name
        · obtain rfl := h.eq_of_name_eq hother hslot hsame
          rw [h.lawful.item_put other hother]
        · rw [h.lawful.item_put_of_ne slot hslot other hother hsame]
          apply htaken.kept other hother
          rw [List.map_cons, List.mem_cons, not_or]
          exact ⟨hname ▸ hsame, hfresh⟩
      rw [readEntries, h.readEntry_of_shows hslot hname hshows]
      exact ih hnext

theorem taken_of_readEntries (h : shape.HasSlots slots cut)
    (hdistinct : (entries.map Prod.fst).Nodup) (hkeys : ∀ entry ∈ entries, entry.2.DistinctKeys)
    (hread : shape.readEntries start entries = .ok record) :
    Slot.Taken slots start record (cutEntries cut entries) := by
  induction entries generalizing start with
  | nil =>
      obtain rfl := Except.ok.inj hread
      exact ⟨fun _ hentry => absurd hentry List.not_mem_nil, fun _ _ _ => rfl⟩
  | cons entry rest ih =>
      obtain ⟨hfresh, hdistinct⟩ := List.nodup_cons.mp hdistinct
      obtain ⟨hentry, hkeys⟩ := List.forall_mem_cons.mp hkeys
      rw [readEntries, bind_eq_ok_iff] at hread
      obtain ⟨next, hnext, hread⟩ := hread
      obtain ⟨slot, hslot, hname, item, hshows, rfl⟩ := h.shows_of_readEntry hentry hnext
      have htaken := ih hdistinct hkeys hread
      -- No later entry has the key, so the slot keeps what this entry shows.
      have hitem : slot.item record = item := by
        rw [htaken.kept slot hslot (by rwa [keys_cutEntries, hname]), h.lawful.item_put slot hslot]
      refine ⟨List.forall_mem_cons.mpr ⟨⟨slot, hslot, hname, ?_⟩, htaken.shown⟩, ?_⟩
      · rwa [hitem]
      · intro other hother hmissing
        rw [keys_cutEntries, List.map_cons, List.mem_cons, not_or] at hmissing
        rw [htaken.kept other hother (by rw [keys_cutEntries]; exact hmissing.2),
          h.lawful.item_put_of_ne slot hslot other hother (hname ▸ hmissing.1)]

theorem readEntries_cutEntries (h : shape.HasSlots slots cut) (start : α)
    (entries : List (String × Value)) :
    shape.readEntries start (cutEntries cut entries) = shape.readEntries start entries := by
  induction entries generalizing start with
  | nil => rfl
  | cons entry rest ih =>
      rw [cutEntries, List.map_cons, readEntries, readEntries, h.readEntry_cut]
      cases shape.readEntry start entry with
      | error misfit => rfl
      | ok next => exact ih next

end Shape.HasSlots

end SqlStatement
