/-!
# Places in a text

A place in a text is the number of bytes in front of it.  A text can be cut at a
place only if no character is cut in two there.
-/

namespace SqlStatement

namespace Text

def placedFrom (place : Nat) : List Char → List (Nat × Char)
  | [] => []
  | c :: rest => (place, c) :: placedFrom (place + c.utf8Size) rest

def placed (s : String) : List (Nat × Char) :=
  placedFrom 0 s.toList

/-- A place between characters, or at one end of the text. -/
def IsBoundary (s : String) (place : Nat) : Prop :=
  (String.Pos.Raw.mk place).IsValid s

instance (s : String) (place : Nat) : Decidable (IsBoundary s place) :=
  inferInstanceAs (Decidable ((String.Pos.Raw.mk place).IsValid s))

/-- The text in front of a place; none if the place is within a character or behind the text. -/
def before? (s : String) (place : Nat) : Option String :=
  if h : IsBoundary s place then some (s.sliceTo (s.pos ⟨place⟩ h)).copy else none

theorem length_placedFrom (place : Nat) (s : List Char) :
    (placedFrom place s).length = s.length := by
  induction s generalizing place with
  | nil => rfl
  | cons c rest ih => simp [placedFrom, ih]

theorem placed_getElem?_eq_none_iff (s : String) (n : Nat) :
    (placed s)[n]? = none ↔ s.length ≤ n := by
  rw [List.getElem?_eq_none_iff, placed, length_placedFrom, String.length_toList]

/-- The place of a character is the size of what stands in front of it. -/
theorem placedFrom_getElem?_length (place : Nat) (front : List Char) (c : Char)
    (rest : List Char) :
    (placedFrom place (front ++ c :: rest))[front.length]? =
      some (place + (String.ofList front).utf8ByteSize, c) := by
  induction front generalizing place with
  | nil => simp [placedFrom]
  | cons first front ih =>
      simp only [List.cons_append, placedFrom, List.length_cons, List.getElem?_cons_succ, ih]
      simp [Nat.add_assoc]

theorem placed_getElem?_length (front : String) (c : Char) (rest : List Char) :
    (placed (front ++ String.ofList (c :: rest)))[front.length]? =
      some (front.utf8ByteSize, c) := by
  have hplace := placedFrom_getElem?_length 0 front.toList c rest
  rw [String.length_toList, String.ofList_toList, Nat.zero_add] at hplace
  rw [placed, String.toList_append, String.toList_ofList, hplace]

theorem isBoundary_append (front back : String) :
    IsBoundary (front ++ back) front.utf8ByteSize :=
  String.Pos.Raw.isValid_iff_exists_append.mpr ⟨front, back, rfl, rfl⟩

theorem before?_append (front back : String) :
    before? (front ++ back) front.utf8ByteSize = some front := by
  have hboundary := isBoundary_append front back
  have hsplits : ((front ++ back).pos ⟨front.utf8ByteSize⟩ hboundary).Splits front back :=
    ⟨rfl, String.offset_pos⟩
  rw [before?, dif_pos hboundary, hsplits.copy_sliceTo_eq]

example : before? "aéb" 1 = some "a" ∧ before? "aéb" 2 = none ∧ before? "aéb" 3 = some "aé" := by
  decide +kernel

end Text

end SqlStatement
