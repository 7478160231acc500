import SqlStatement.Text.Ranges

/-!
# Blank characters

The characters with the Unicode property `White_Space`, and trimming by it.
Names and tables that hold nothing else count as empty, and the items of a
comma-separated list are trimmed by the same class.
-/

namespace SqlStatement

namespace Text

/-- The code points with the property `White_Space`. -/
def blankRanges : List (Nat × Nat) := [
  (0x9, 0xd), (0x20, 0x20), (0x85, 0x85), (0xa0, 0xa0), (0x1680, 0x1680), (0x2000, 0x200a),
  (0x2028, 0x2029), (0x202f, 0x202f), (0x205f, 0x205f), (0x3000, 0x3000)]

def isBlank (c : Char) : Bool :=
  inRanges c.toNat blankRanges

def trimStart (s : List Char) : List Char :=
  s.dropWhile isBlank

def trim (s : List Char) : List Char :=
  (trimStart (trimStart s).reverse).reverse

def isBlankText (s : String) : Bool :=
  s.toList.all isBlank

end Text

end SqlStatement
