import SqlStatement.Text.Blank

/-!
# Pieces of a text

Cutting a text at a separator, leaving out copies of a lead, and the items of a
comma-separated list: its pieces, trimmed, the empty ones left out.
-/

namespace SqlStatement

namespace Text

def consPiece (c : Char) : List (List Char) → List (List Char)
  | [] => [[c]]
  | piece :: rest => (c :: piece) :: rest

/-- The pieces between separators: one more than there are separators. -/
def pieces (separator : Char) : List Char → List (List Char)
  | [] => [[]]
  | c :: rest =>
      if c = separator then [] :: pieces separator rest
      else consPiece c (pieces separator rest)

theorem pieces_ne_nil (separator : Char) (s : List Char) : pieces separator s ≠ [] := by
  cases s with
  | nil => simp [pieces]
  | cons c rest =>
      unfold pieces
      split
      · simp
      · cases pieces separator rest <;> simp [consPiece]

/-- The items of a comma-separated list: trimmed pieces that are not empty. -/
def items (s : String) : List String :=
  ((pieces ',' s.toList).map trim).filterMap fun piece =>
    if piece.isEmpty then none else some (String.ofList piece)

/--
Fuelled removal of copies of a lead from the front of a text.

Each copy is at least one character long, so as much fuel as there are
characters is enough; `dropCopies` supplies it.
-/
def dropCopiesFuel (lead : List Char) : Nat → List Char → List Char
  | 0, s => s
  | fuel + 1, s =>
      if lead.isPrefixOf s then dropCopiesFuel lead fuel (s.drop lead.length) else s

def dropCopies (lead s : List Char) : List Char :=
  dropCopiesFuel lead s.length s

theorem dropCopies_of_not_isPrefixOf {lead s : List Char} (h : lead.isPrefixOf s = false) :
    dropCopies lead s = s := by
  unfold dropCopies
  cases s with
  | nil => rfl
  | cons c rest => simp [dropCopiesFuel, h]

end Text

end SqlStatement
