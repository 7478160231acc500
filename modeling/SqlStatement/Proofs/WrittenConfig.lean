import SqlStatement.Config.Decode
import SqlStatement.Proofs.Records

/-! # Configurations as documents write them

The values that stand for texts, row counts, choices and lists, and from them the slots
of sort keys, statements and configurations. The shapes of all three read back what is
written in this way.
-/

namespace SqlStatement

open Toml (Value)

namespace Toml.Value

def OfText (text : String) (value : Value) : Prop :=
  value = .string text

def OfInt64 (number : Int64) (value : Value) : Prop :=
  value = .integer number.toInt

/-- A choice by its name, alone or as the one key of a table with nothing behind it. -/
inductive OfChoice (name : String) : Value → Prop
  | text : OfChoice name (.string name)
  | table : OfChoice name (.table [(name, .table [])])
  | array : OfChoice name (.table [(name, .array [])])

def OfList {ι : Type} (Shows : ι → Value → Prop) (items : List ι) (value : Value) : Prop :=
  ∃ values, value = .array values ∧ List.Forall₂ Shows items values

def OfSome {ι : Type} (Shows : ι → Value → Prop) (item? : Option ι) (value : Value) : Prop :=
  ∃ item, item? = some item ∧ Shows item value

def cutItems (cut : Value → Value) : Value → Value
  | .array items => .array (items.map cut)
  | value => value

def cutItemsOf (field : String) (cut : Value → Value) (name : String) (value : Value) : Value :=
  if name = field then cutItems cut value else value

end Toml.Value

open Toml.Value

/-! ## Readers -/

theorem readsAs_text : ReadsAs readText OfText id where
  read_of_shows {text value} hshows := by
    rw [hshows]
    rfl
  shows_of_read {text value} _ hread := by
    cases value with
    | string written => exact congrArg Value.string (Except.ok.inj hread)
    | _ => exact absurd hread (refuse_ne_ok _ _ text)
  read_cut _ := rfl
  cut_of_shows _ := rfl

theorem readsAs_int64 : ReadsAs readInt64 OfInt64 id where
  read_of_shows {number value} hshows := by
    have hrange : -Int.pow 2 63 ≤ number.toInt ∧ number.toInt < Int.pow 2 63 :=
      ⟨number.le_toInt, number.toInt_lt⟩
    rw [hshows, readInt64, if_pos hrange, Int64.ofInt_toInt]
  shows_of_read {number value} _ hread := by
    cases value with
    | integer written =>
        rw [readInt64] at hread
        split at hread
        · next hrange =>
            obtain rfl := Except.ok.inj hread
            exact congrArg Value.integer
              (Int64.toInt_ofInt_of_le hrange.1 hrange.2).symm
        · split at hread
          · cases hread
          · exact absurd hread (refuse_ne_ok _ _ number)
    | _ => exact absurd hread (refuse_ne_ok _ _ number)
  read_cut _ := rfl
  cut_of_shows _ := rfl

theorem readName_eq_ok_iff {ι : Type} {ofName? : String → Option ι} {names : List String}
    {name : String} {choice : ι} :
    readName ofName? names name = .ok choice ↔ ofName? name = some choice := by
  rw [readName]
  cases ofName? name <;> simp

theorem readsAs_choice {ι : Type} {ofName? : String → Option ι} {name : ι → String}
    (names : List String)
    (hname : ∀ written choice, ofName? written = some choice ↔ name choice = written) :
    ReadsAs (readChoice ofName? names) (fun choice => OfChoice (name choice)) id where
  read_of_shows {choice value} hshows := by
    have hread : readName ofName? names (name choice) = .ok choice :=
      readName_eq_ok_iff.mpr ((hname _ _).mpr rfl)
    cases hshows with
    | text => exact hread
    | table | array =>
        rw [readChoice, hread]
        rfl
  shows_of_read {choice value} _ hread := by
    cases value with
    | string written =>
        obtain rfl := (hname written choice).mp (readName_eq_ok_iff.mp hread)
        exact .text
    | table entries =>
        match entries, hread with
        | [(written, behind)], hread =>
            rw [readChoice, bind_eq_ok_iff] at hread
            obtain ⟨read, hwritten, hread⟩ := hread
            obtain rfl := (hname written read).mp (readName_eq_ok_iff.mp hwritten)
            match behind, hread with
            | .table [], hread => exact Except.ok.inj hread ▸ .table
            | .array [], hread => exact Except.ok.inj hread ▸ .array
    | _ => cases hread
  read_cut _ := rfl
  cut_of_shows _ := rfl

theorem readItems_eq_mapM {ι : Type} (read : Value → Except Misfit ι) (items : List Value) :
    readItems read items = items.mapM read := by
  induction items with
  | nil => rfl
  | cons item rest ih =>
      rw [readItems, List.mapM_cons, ih]

namespace ReadsAs

variable {ι : Type} {read : Value → Except Misfit ι} {Shows : ι → Value → Prop}
  {cut : Value → Value}

theorem list (h : ReadsAs read Shows cut) :
    ReadsAs (readList read) (OfList Shows) (cutItems cut) where
  read_of_shows {items value} hshows := by
    obtain ⟨values, rfl, hvalues⟩ := hshows
    rw [readList, readItems_eq_mapM, mapM_eq_ok_iff]
    exact hvalues.flip.imp fun _ _ hvalue => h.read_of_shows hvalue
  shows_of_read {items value} hkeys hread := by
    cases value with
    | array values =>
        cases hkeys with
        | scalar harray => exact absurd rfl (harray values)
        | array hvalues =>
            rw [readList, readItems_eq_mapM, mapM_eq_ok_iff] at hread
            refine ⟨values.map cut, rfl, ?_⟩
            rw [List.forall₂_map_right_iff]
            have hboth := (List.forall₂_and_left _ _).mpr ⟨hvalues, hread⟩
            exact hboth.flip.imp fun _ _ hvalue => h.shows_of_read hvalue.1 hvalue.2
    | _ => exact absurd hread (refuse_ne_ok _ _ items)
  read_cut value := by
    cases value with
    | array values =>
        have hread : read ∘ cut = read := funext h.read_cut
        rw [cutItems, readList, readList, readItems_eq_mapM, readItems_eq_mapM, List.mapM_map]
        exact congrArg (List.mapM · values) hread
    | _ => rfl
  cut_of_shows {items value} hshows := by
    obtain ⟨values, rfl, hvalues⟩ := hshows
    rw [cutItems, map_eq_self_iff.mpr]
    intro value hvalue
    obtain ⟨item, -, hitem⟩ := exists_mem_of_forall₂ hvalues.flip hvalue
    exact h.cut_of_shows hitem

/-- Lists of items in which nothing is passed over. -/
theorem listOfWhole (h : ReadsAs read Shows id) :
    ReadsAs (readList read) (OfList Shows) id := by
  have hcut : cutItems id = id := by
    funext value
    cases value <;> simp [cutItems]
  exact hcut ▸ h.list

theorem present (h : ReadsAs read Shows cut) :
    ReadsAs (fun value => do return some (← read value)) (OfSome Shows) cut where
  read_of_shows {item? value} hshows := by
    obtain ⟨item, rfl, hitem⟩ := hshows
    rw [h.read_of_shows hitem]
    rfl
  shows_of_read {item? value} hkeys hread := by
    obtain ⟨item, hitem, hsome⟩ := bind_eq_ok_iff.mp hread
    exact ⟨item, (Except.ok.inj hsome).symm, h.shows_of_read hkeys hitem⟩
  read_cut value := by
    rw [h.read_cut]
  cut_of_shows {item? value} hshows := by
    obtain ⟨item, -, hitem⟩ := hshows
    exact h.cut_of_shows hitem

end ReadsAs

theorem StatementKind.ofName?_eq_some_iff (written : String) (kind : StatementKind) :
    ofName? written = some kind ↔ kind.name = written := by
  constructor
  · intro h
    simpa using List.find?_some h
  · rintro rfl
    exact ofName?_name kind

theorem Direction.ofName?_eq_some_iff (written : String) (direction : Direction) :
    ofName? written = some direction ↔ direction.name = written := by
  constructor
  · intro h
    simpa using List.find?_some h
  · rintro rfl
    exact ofName?_name direction

theorem Direction.default_eq : (default : Direction) = .ascending := rfl

/-- Under a name stands a list, whose items have a reader of their own. -/
def Shape.ReadsList {α ι : Type} (shape : Shape α) (name : String)
    (readItem : Value → Except Misfit ι) : Prop :=
  ∃ put : α → List ι → α, ∀ record value,
    shape.readEntry record (name, value) = do return put record (← readList readItem value)

/-! ## Sort keys -/

namespace SortKey

/-- A sort key is a column and a direction, which is ascending where it is left out. -/
def slots : List (Slot SortKey) := [
  { name := "column", Item := String, item := SortKey.column
    put := fun key column => { key with column }
    Shows := OfText, default? := none, placeDefault? := none },
  { name := "direction", Item := Direction, item := SortKey.direction
    put := fun key direction => { key with direction }
    Shows := fun direction => OfChoice direction.name
    default? := some .ascending, placeDefault? := some .ascending }]

def WrittenAs : SortKey → Value → Prop :=
  Slot.RecordOf slots

def cutField (_ : String) (value : Value) : Value :=
  value

def cut : Value → Value :=
  shape.cut cutField

theorem lawful_slots : Slot.Lawful slots where
  distinct := by decide
  item_put := by simp [slots]
  item_put_of_ne := by simp [slots]
  ext := by
    rintro ⟨column, direction⟩ ⟨column', direction'⟩
    simp [slots]

theorem hasSlots : shape.HasSlots slots cutField where
  lawful := lawful_slots
  fills := .cons ⟨rfl, rfl, rfl, _, readsAs_text, fun _ _ => rfl⟩ <|
    .cons ⟨rfl, rfl, rfl, _, readsAs_choice _ Direction.ofName?_eq_some_iff, fun _ _ => rfl⟩ .nil
  default := by simp [slots, shape, Direction.default_eq]
  placeDefault := by simp [slots, shape, Direction.default_eq]

theorem readsAs : ReadsAs shape.read WrittenAs cut :=
  hasSlots.readsAs

end SortKey

/-! ## Statements -/

namespace NamedStatement

def sortKeysSlot : Slot NamedStatement where
  name := "order_by"
  Item := List SortKey
  item := NamedStatement.sortKeys
  put := fun statement sortKeys => { statement with sortKeys }
  Shows := OfList SortKey.WrittenAs
  default? := some []
  placeDefault? := some []

/-- A statement is its name, kind and table, and up to five lists.  The columns are absent where
the key is, and in an array they must be there. -/
def slots : List (Slot NamedStatement) := [
  { name := "name", Item := String, item := NamedStatement.name
    put := fun statement name => { statement with name }
    Shows := OfText, default? := none, placeDefault? := none },
  { name := "kind", Item := StatementKind, item := NamedStatement.kind
    put := fun statement kind => { statement with kind }
    Shows := fun kind => OfChoice kind.name, default? := none, placeDefault? := none },
  { name := "table", Item := String, item := NamedStatement.table
    put := fun statement table => { statement with table }
    Shows := OfText, default? := none, placeDefault? := none },
  { name := "columns", Item := Option (List String), item := NamedStatement.columns
    put := fun statement columns => { statement with columns }
    Shows := OfSome (OfList OfText), default? := some none, placeDefault? := none },
  { name := "set", Item := List String, item := NamedStatement.assignments
    put := fun statement assignments => { statement with assignments }
    Shows := OfList OfText, default? := some [], placeDefault? := some [] },
  { name := "where", Item := List String, item := NamedStatement.filters
    put := fun statement filters => { statement with filters }
    Shows := OfList OfText, default? := some [], placeDefault? := some [] },
  sortKeysSlot,
  { name := "limit", Item := List Int64, item := NamedStatement.limits
    put := fun statement limits => { statement with limits }
    Shows := OfList OfInt64, default? := some [], placeDefault? := some [] }]

def WrittenAs : NamedStatement → Value → Prop :=
  Slot.RecordOf slots

def cutField : String → Value → Value :=
  cutItemsOf "order_by" SortKey.cut

def cut : Value → Value :=
  shape.cut cutField

theorem lawful_slots : Slot.Lawful slots where
  distinct := by decide
  item_put := by simp [slots, sortKeysSlot]
  item_put_of_ne := by simp [slots, sortKeysSlot]
  ext := by
    rintro ⟨⟩ ⟨⟩
    simp [slots, sortKeysSlot]

theorem hasSlots : shape.HasSlots slots cutField where
  lawful := lawful_slots
  fills := by
    have hkinds := readsAs_choice (StatementKind.all.map StatementKind.name)
      StatementKind.ofName?_eq_some_iff
    have htexts := readsAs_text.listOfWhole
    refine .cons ⟨rfl, rfl, rfl, _, readsAs_text, fun _ _ => rfl⟩ <|
      .cons ⟨rfl, rfl, rfl, _, hkinds, fun _ _ => rfl⟩ <|
      .cons ⟨rfl, rfl, rfl, _, readsAs_text, fun _ _ => rfl⟩ <|
      .cons ⟨rfl, rfl, rfl, _, htexts.present, ?_⟩ <|
      .cons ⟨rfl, rfl, rfl, _, htexts, fun _ _ => rfl⟩ <|
      .cons ⟨rfl, rfl, rfl, _, htexts, fun _ _ => rfl⟩ <|
      .cons ⟨rfl, rfl, rfl, _, SortKey.readsAs.list, fun _ _ => rfl⟩ <|
      .cons ⟨rfl, rfl, rfl, _, readsAs_int64.listOfWhole, fun _ _ => rfl⟩ .nil
    intro statement value
    show (readList readText value >>= _) = _
    cases readList readText value <;> rfl
  default := by simp [slots, sortKeysSlot, shape]
  placeDefault := by simp [slots, sortKeysSlot, shape]

theorem readsAs : ReadsAs shape.read WrittenAs cut :=
  hasSlots.readsAs

theorem readsList_sortKeys : shape.ReadsList "order_by" SortKey.shape.read :=
  ⟨sortKeysSlot.put, fun _ _ => rfl⟩

end NamedStatement

/-! ## Configurations -/

namespace Config

def statementsSlot : Slot Config where
  name := "statements"
  Item := List NamedStatement
  item := Config.statements
  put := fun config statements => { config with statements }
  Shows := OfList NamedStatement.WrittenAs
  default? := some []
  placeDefault? := some []

def slots : List (Slot Config) := [
  { name := "version", Item := String, item := Config.version
    put := fun config version => { config with version }
    Shows := OfText, default? := none, placeDefault? := none },
  statementsSlot]

/-- The tables that stand for a configuration. -/
def WrittenAs : Config → List (String × Value) → Prop :=
  Slot.TableOf slots

def cutField : String → Value → Value :=
  cutItemsOf "statements" NamedStatement.cut

def cut : List (String × Value) → List (String × Value) :=
  Shape.cutEntries cutField

theorem lawful_slots : Slot.Lawful slots where
  distinct := by decide
  item_put := by simp [slots, statementsSlot]
  item_put_of_ne := by simp [slots, statementsSlot]
  ext := by
    rintro ⟨⟩ ⟨⟩
    simp [slots, statementsSlot]

theorem hasSlots : shape.HasSlots slots cutField where
  lawful := lawful_slots
  fills := .cons ⟨rfl, rfl, rfl, _, readsAs_text, fun _ _ => rfl⟩ <|
    .cons ⟨rfl, rfl, rfl, _, NamedStatement.readsAs.list, fun _ _ => rfl⟩ .nil
  default := by simp [slots, statementsSlot, shape]
  placeDefault := by simp [slots, statementsSlot, shape]

theorem readsList_statements : shape.ReadsList "statements" NamedStatement.shape.read :=
  ⟨statementsSlot.put, fun _ _ => rfl⟩

end Config

end SqlStatement
