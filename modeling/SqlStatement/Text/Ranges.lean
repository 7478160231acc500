/-!
# Character ranges

A class of characters given as a list of ranges of code points, in ascending
order.  The tables of the neighbouring modules have this form.
-/

namespace SqlStatement

namespace Text

/--
Whether a code point lies in one of the ranges.  The ranges ascend, so the
search stops at the first one that begins above the code point.
-/
def inRanges (code : Nat) : List (Nat × Nat) → Bool
  | [] => false
  | (first, last) :: rest =>
      if code < first then false
      else if code ≤ last then true
      else inRanges code rest

end Text

end SqlStatement
