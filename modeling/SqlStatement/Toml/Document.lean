import SqlStatement.Toml.Line
import SqlStatement.Toml.Scalar
import SqlStatement.Toml.Tree

/-!
# TOML documents

A document is cut into lines, and then read line by line into one table.  A
header says where the values below it go.  A text that cannot be cut into lines
fails before anything in it is read; otherwise the first line that fails counts.
-/

namespace SqlStatement

namespace Toml

inductive DocumentError where
  /-- The text is not well-formed, or defines something twice. -/
  | malformed
  | longPath
  deriving DecidableEq

namespace DocumentError

/-- The message for a person.  Where in the text a document went wrong is not told. -/
def message : DocumentError → String
  | malformed => "TOML parse error"
  | longPath => "recursion limit\n"

end DocumentError

def orMalformed {α : Type} : Option α → Except DocumentError α
  | some result => .ok result
  | none => .error .malformed

def pathLimit : Nat :=
  80

def readPath (texts : List (List Char)) : Except DocumentError (List String) := do
  let keys ← orMalformed (texts.mapM key?)
  if keys.length ≤ pathLimit then return keys else .error .longPath

mutual

def readTerm : Term → Except DocumentError Value
  | .scalar text => orMalformed (scalar? text)
  | .array items => do return .array (← readTerms items)
  | .table pairs => do return .table (finishEntries (← addPairs [] pairs))

def readTerms : List Term → Except DocumentError (List Value)
  | [] => .ok []
  | item :: rest => do
      let first ← readTerm item
      let others ← readTerms rest
      return first :: others

def addPairs : Entries → List (List (List Char) × Term) → Except DocumentError Entries
  | entries, [] => .ok entries
  | entries, (texts, term) :: rest => do
      let path ← readPath texts
      let value ← readTerm term
      addPairs (← orMalformed (entries.addValue path value)) rest

end

/--
The table read so far, and the path of the last header.  If that header is one
of a list of tables, the table below it is kept apart until its lines are over.
-/
structure Draft where
  entries : Entries := []
  place : List String := []
  next : Option Entries := none

namespace Draft

def addValue? (draft : Draft) (path : List String) (value : Value) : Option Draft :=
  match draft.next with
  | some next => do return { draft with next := some (← next.addValue path value) }
  | none => do
      let entries ←
        Entries.change .passage (fun _ inner => inner.addValue path value) draft.place .header
          draft.entries
      return { draft with entries }

def finish (draft : Draft) : Except DocumentError Entries :=
  match draft.next with
  | none => .ok draft.entries
  | some next => orMalformed (draft.entries.addHeader (Entries.addNext next) draft.place)

def add (draft : Draft) : Line → Except DocumentError Draft
  | .entry texts term => do
      let path ← readPath texts
      let value ← readTerm term
      orMalformed (draft.addValue? path value)
  | .table texts => do
      let entries ← draft.finish
      let path ← readPath texts
      let entries ← orMalformed (entries.addHeader Entries.openTable path)
      return { entries, place := path }
  | .next texts => do
      let entries ← draft.finish
      let path ← readPath texts
      return { entries, place := path, next := some [] }

end Draft

def readLines (lines : List Line) : Except DocumentError (List (String × Value)) := do
  let draft ← lines.foldlM Draft.add {}
  return finishEntries (← draft.finish)

def dropByteOrderMark : List Char → List Char
  | [] => []
  | c :: rest => if c = Char.ofNat 0xfeff then rest else c :: rest

def readDocument (text : String) : Except DocumentError (List (String × Value)) := do
  readLines (← orMalformed (lines? (tokens (dropByteOrderMark text.toList))))

end Toml

end SqlStatement
