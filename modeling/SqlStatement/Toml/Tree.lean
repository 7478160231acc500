import SqlStatement.Toml.Value

/-!
# TOML tables under construction

A document mentions its tables piece by piece: by headers, by headers of lists
of tables, and by paths of keys.  A node remembers how a table came to be
mentioned, because that decides what may still be added to it.
-/

namespace SqlStatement

namespace Toml

inductive Origin where
  /-- By a header of its own. -/
  | header
  /-- On the way to the table of a header. -/
  | passage
  /-- By a path of keys. -/
  | keys
  deriving DecidableEq

inductive Node where
  /-- A value, to which nothing can be added. -/
  | value (value : Value)
  | table (origin : Origin) (entries : List (String × Node))
  /-- A list of tables: the last, which is open, and the others from the last to the first. -/
  | tables (closed : List Value) (entries : List (String × Node))

abbrev Entries :=
  List (String × Node)

mutual

def Node.finish : Node → Value
  | .value value => value
  | .table _ entries => .table (finishEntries entries)
  | .tables closed entries => .array (closed.reverse ++ [.table (finishEntries entries)])

def finishEntries : List (String × Node) → List (String × Value)
  | [] => []
  | (key, node) :: rest => (key, node.finish) :: finishEntries rest

end

namespace Entries

def find? (entries : Entries) (key : String) : Option Node :=
  List.lookup key entries

/-- Let a key lead to something: in its place if it is there, and behind the others if not. -/
def put (entries : Entries) (key : String) (node : Node) : Entries :=
  match entries with
  | [] => [(key, node)]
  | (other, present) :: rest =>
      if other = key then (other, node) :: rest else (other, present) :: put rest key node

/--
Go down a path and change the table there.  Tables that are missing on the way
are made, with `fresh` as their origin.  A path of keys does not enter a table
that has a header of its own; of a list of tables, the last one is entered.
-/
def change (fresh : Origin) (edit : Origin → Entries → Option Entries) :
    List String → Origin → Entries → Option Entries
  | [], origin, entries => edit origin entries
  | key :: path, _, entries =>
      match entries.find? key with
      | none => do
          let inner ← change fresh edit path fresh []
          return entries.put key (.table fresh inner)
      | some (.value _) => none
      | some (.tables closed last) => do
          let inner ← change fresh edit path .header last
          return entries.put key (.tables closed inner)
      | some (.table origin inner) =>
          if fresh = .keys ∧ origin = .header then none
          else do
            let inner ← change fresh edit path origin inner
            return entries.put key (.table origin inner)

def addKey (key : String) (value : Value) (entries : Entries) : Option Entries :=
  match entries.find? key with
  | none => some (entries.put key (.value value))
  | some _ => none

/--
Add a value under a path of keys.  All keys but the last lead to a table that
paths of keys have made, and the last one is new there.
-/
def addValue (path : List String) (value : Value) (entries : Entries) : Option Entries :=
  match path.getLast? with
  | none => none
  | some key =>
      let way := path.dropLast
      change .keys
        (fun origin inner =>
          if way.isEmpty ∨ origin = .keys then addKey key value inner else none)
        way .header entries

/-- Open the table of a header: it is new, or was only passed on the way to others. -/
def openTable (key : String) (entries : Entries) : Option Entries :=
  match entries.find? key with
  | none => some (entries.put key (.table .header []))
  | some (.table .passage inner) => some (entries.put key (.table .header inner))
  | some _ => none

/-- Add a table to a list of tables; sub-tables may still be added to it. -/
def addNext (next : Entries) (key : String) (entries : Entries) : Option Entries :=
  match entries.find? key with
  | none => some (entries.put key (.tables [] next))
  | some (.tables closed last) =>
      some (entries.put key (.tables (.table (finishEntries last) :: closed) next))
  | some _ => none

def addHeader (one : String → Entries → Option Entries) (path : List String) (entries : Entries) :
    Option Entries :=
  match path.getLast? with
  | none => none
  | some key => change .passage (fun _ inner => one key inner) path.dropLast .header entries

end Entries

end Toml

end SqlStatement
