import SqlStatement.Build
import SqlStatement.Text.Place

/-!
# Events of a build

What a build reports besides its result: that a clause was rejected, that
several limits went into one list, that a statement was built.  Events are
values; who logs them decides how they look.
-/

namespace SqlStatement

inductive Level where
  | debug
  | warn
  deriving DecidableEq

namespace Level

def name : Level → String
  | debug => "DEBUG"
  | warn => "WARN"

end Level

inductive Event where
  | rejected (statement : StatementKind) (clause : ClauseKind)
  | severalLimits (count : Nat)
  /-- A statement was built from that many clauses; its text may be cut. -/
  | built (statement : StatementKind) (clauses : Nat) (excerpt : String)
  deriving DecidableEq

namespace Event

def target : String :=
  "sqlkit.build"

def level : Event → Level
  | rejected .. => .debug
  | severalLimits _ => .warn
  | built .. => .debug

def message : Event → String
  | rejected .. => "rejected clause"
  | severalLimits _ => "multiple LIMIT clauses rendered as a comma list"
  | built .. => "built statement"

end Event

def excerptLength : Nat :=
  200

/--
What an event shows of a text: a text of at most `excerptLength` characters as it is, a
longer one cut in front of the next character and marked.  A cut through a character
would leave nothing to show.
-/
def excerpt? (text : String) : Option String :=
  match (Text.placed text)[excerptLength]? with
  | some (place, _) => (Text.before? text place).map (· ++ "...")
  | none => some text

theorem excerpt?_of_length_le {text : String} (h : text.length ≤ excerptLength) :
    excerpt? text = some text := by
  rw [excerpt?, (Text.placed_getElem?_eq_none_iff text excerptLength).mpr h]

theorem excerpt?_append {front back : String} (hfront : front.length = excerptLength)
    (hback : back ≠ "") : excerpt? (front ++ back) = some (front ++ "...") := by
  obtain ⟨c, rest, hchars⟩ := List.exists_cons_of_ne_nil (mt String.toList_eq_nil_iff.mp hback)
  obtain rfl : back = String.ofList (c :: rest) := by rw [← hchars, String.ofList_toList]
  have hplace := Text.placed_getElem?_length front c rest
  rw [hfront] at hplace
  rw [excerpt?, hplace]
  show (Text.before? _ _).map (· ++ "...") = _
  rw [Text.before?_append, Option.map_some]

/-- A text that is not shown as it is has a front of the length shown, and more behind it. -/
theorem length_le_or_exists_front (text : String) :
    text.length ≤ excerptLength ∨
      ∃ front back, text = front ++ back ∧ front.length = excerptLength ∧ back ≠ "" := by
  by_cases h : text.length ≤ excerptLength
  · exact Or.inl h
  · have hlong : excerptLength < text.toList.length := by
      rw [String.length_toList]
      omega
    refine Or.inr ⟨String.ofList (text.toList.take excerptLength),
      String.ofList (text.toList.drop excerptLength), ?_, ?_, ?_⟩
    · rw [← String.ofList_append, List.take_append_drop, String.ofList_toList]
    · rw [String.length_ofList, List.length_take]
      omega
    · intro hempty
      have hnil := congrArg (fun s => s.toList.length) hempty
      simp only [String.toList_ofList, List.length_drop, String.toList_empty,
        List.length_nil] at hnil
      omega

/-- The cut is always between characters. -/
theorem isSome_excerpt? (text : String) : (excerpt? text).isSome := by
  rcases length_le_or_exists_front text with h | ⟨front, back, rfl, hfront, hback⟩
  · rw [excerpt?_of_length_le h]
    rfl
  · rw [excerpt?_append hfront hback]
    rfl

def excerpt (text : String) : String :=
  (excerpt? text).get (isSome_excerpt? text)

def builtEvents (head : Head) (set : ClauseSet) : List Event :=
  let limits := set.countOf .limit
  let built := Event.built head.kind set.length (excerpt (render head set).text)
  if 2 ≤ limits then [.severalLimits limits, built] else [built]

def failedEvents : BuildError → List Event
  | .illegalClause clause statement => [.rejected statement clause]
  | _ => []

def tracedBuild (head : Head) (clauses : List Clause) : Except BuildError Sql × List Event :=
  match head.validate clauses with
  | .ok set => (.ok (render head set), builtEvents head set)
  | .error error => (.error error, failedEvents error)

/-- Telling what happened changes nothing in the result. -/
theorem tracedBuild_fst (head : Head) (clauses : List Clause) :
    (tracedBuild head clauses).1 = build head clauses := by
  unfold tracedBuild build
  cases head.validate clauses <;> rfl

end SqlStatement
