import SqlStatement.Config.Misfit

/-!
# Shapes of values

How texts, whole numbers, lists, choices and records are read from the values of
a document.  A record is a table with known keys, or an array of its fields in
the order in which they are declared.  Keys of a table are visited in ascending
order, whatever their order in the document, and the first misfit counts.
-/

namespace SqlStatement

open Toml (Value)

namespace Toml.Value

/-- A whole number that 64 bits hold, with a sign or without. -/
def isNarrow (number : Int) : Bool :=
  -Int.pow 2 63 ≤ number ∧ number < Int.pow 2 64

def isWide (number : Int) : Bool :=
  -Int.pow 2 127 ≤ number ∧ number < Int.pow 2 128

/-- The value as something found in the wrong place; numbers that are too large fail first. -/
def found : Value → Except Misfit Found
  | .string text => .ok (.text text)
  | .integer number =>
      if isNarrow number then .ok (.integer number)
      else if isWide number then .ok (.wideInteger number)
      else .error .integerOverflow
  | .illegible => .error .integerOverflow
  | .float (.decimal negative magnitude) =>
      match Binary64.ofDecimal? magnitude with
      | some _ => .ok (.float (.decimal negative magnitude))
      | none => .error .floatOverflow
  | .float number => .ok (.float number)
  | .boolean truth => .ok (.boolean truth)
  | .moment _ => .ok .map
  | .array _ => .ok .sequence
  | .table _ => .ok .map

def refuse {α : Type} (value : Value) (expected : Expected) : Except Misfit α := do
  .error (.invalidType (← value.found) expected)

def readText : Value → Except Misfit String
  | .string text => .ok text
  | value => value.refuse .text

def readInt64 : Value → Except Misfit Int64
  | .integer number =>
      if -Int.pow 2 63 ≤ number ∧ number < Int.pow 2 63 then .ok (Int64.ofInt number)
      else if isNarrow number then .error (.invalidInteger number)
      else (Value.integer number).refuse .integer
  | value => value.refuse .integer

def readItems {α : Type} (read : Value → Except Misfit α) : List Value → Except Misfit (List α)
  | [] => .ok []
  | item :: rest => do
      let first ← read item
      let others ← readItems read rest
      return first :: others

def readList {α : Type} (read : Value → Except Misfit α) : Value → Except Misfit (List α)
  | .array items => readItems read items
  | value => value.refuse .sequence

def readName {α : Type} (ofName? : String → Option α) (names : List String) (name : String) :
    Except Misfit α :=
  match ofName? name with
  | some choice => .ok choice
  | none => .error (.unknownVariant name names)

/--
A choice: a text that names it, or a table with that one key, behind which
stands an empty table or an empty array.
-/
def readChoice {α : Type} (ofName? : String → Option α) (names : List String) :
    Value → Except Misfit α
  | .string name => readName ofName? names name
  | .table [] => .error .noChoice
  | .table [(name, behind)] => do
      let choice ← readName ofName? names name
      match behind with
      | .table [] | .array [] => .ok choice
      | .table _ => .error .tableNotEmpty
      | .array _ => .error .arrayNotEmpty
      | other => .error (.choiceNotTable other.typeName)
  | .table _ => .error .severalChoices
  | _ => .error .notChoice

end Toml.Value

structure Field (α : Type) where
  name : String
  /-- Take the field's value over into the record. -/
  read : α → Value → Except Misfit α
  /-- A table must have the key. -/
  required : Bool
  /-- An array must have the place. -/
  requiredPlace : Bool

structure Shape (α : Type) where
  title : String
  fields : List (Field α)
  /-- The record before any field is read: every field that may be left out has its default. -/
  blank : α

def sortedByKey (entries : List (String × Value)) : List (String × Value) :=
  entries.mergeSort fun a b => a.1 ≤ b.1

theorem sortedByKey_of_pairwise {entries : List (String × Value)}
    (h : entries.Pairwise fun a b => a.1 ≤ b.1) : sortedByKey entries = entries :=
  List.mergeSort_of_pairwise (by simpa using h)

/-- The key of a date or time where a record was expected. -/
def momentKey : String :=
  "$__toml_private_datetime"

namespace Shape

variable {α : Type}

def names (shape : Shape α) : List String :=
  shape.fields.map Field.name

def field? (shape : Shape α) (name : String) : Option (Field α) :=
  shape.fields.find? fun field => field.name = name

def readEntry (shape : Shape α) (record : α) (entry : String × Value) : Except Misfit α :=
  match shape.field? entry.1 with
  | some field => field.read record entry.2
  | none => .error (.unknownField entry.1 shape.names)

def readEntries (shape : Shape α) : α → List (String × Value) → Except Misfit α
  | record, [] => .ok record
  | record, entry :: rest => do
      let record ← shape.readEntry record entry
      readEntries shape record rest

/-- The first field in the order of declaration that must be there and is not. -/
def missing? (shape : Shape α) (entries : List (String × Value)) : Option (Field α) :=
  shape.fields.find? fun field =>
    field.required && !entries.any fun entry => entry.1 = field.name

def ofTable (shape : Shape α) (entries : List (String × Value)) : Except Misfit α := do
  let record ← shape.readEntries shape.blank (sortedByKey entries)
  match shape.missing? entries with
  | some field => .error (.missingField field.name)
  | none => return record

/-- Take the items of an array over, each into the field of its place; items without a field go. -/
def readPlaces (record : α) : List (Field α) → List Value → Except Misfit α
  | field :: fields, item :: items => do
      let record ← field.read record item
      readPlaces record fields items
  | _, _ => .ok record

def missingPlace? (shape : Shape α) (length : Nat) : Option Nat :=
  ((shape.fields.drop length).findIdx? Field.requiredPlace).map (length + ·)

def ofArray (shape : Shape α) (items : List Value) : Except Misfit α := do
  let record ← readPlaces shape.blank shape.fields items
  match shape.missingPlace? items.length with
  | some place => .error (.invalidLength place shape.title shape.fields.length)
  | none => return record

def read (shape : Shape α) : Value → Except Misfit α
  | .table entries => shape.ofTable entries
  | .array items => shape.ofArray items
  | .moment _ => .error (.unknownField momentKey shape.names)
  | value => value.refuse (.record shape.title)

end Shape

end SqlStatement
