/-! # The tokens of a condition

Conditions are read as tokens: brackets, the three connectives, and words. A
word ends at a blank or a bracket, except between the quotes of a literal. The
program never reads a condition; this is how its reader does.
-/

namespace SqlStatement.Condition

abbrev Word := List Char

inductive Token where
  | opening
  | closing
  | not
  | and
  | or
  | word (text : Word)
  deriving DecidableEq

/-- Connectives are known in upper and lower case. -/
def Token.ofWord (text : Word) : Token :=
  if text.map Char.toUpper = ['N', 'O', 'T'] then .not
  else if text.map Char.toUpper = ['A', 'N', 'D'] then .and
  else if text.map Char.toUpper = ['O', 'R'] then .or
  else .word text

def ended (word : Word) : List Token :=
  if word = [] then [] else [.ofWord word]

def delimiter? (c : Char) : Option (List Token) :=
  if c.isWhitespace then some []
  else if c = '(' then some [.opening]
  else if c = ')' then some [.closing]
  else none

/-- Tokens from the middle of a word on, inside a literal if its closing quote is given. -/
def lexFrom (quote : Option Char) (word : Word) : List Char → Option (List Token)
  | [] => if quote.isSome then none else some (ended word)
  | c :: rest =>
      match quote with
      | some mark => lexFrom (if c = mark then none else some mark) (word ++ [c]) rest
      | none =>
          match delimiter? c with
          | some tokens => (lexFrom none [] rest).map ((ended word ++ tokens) ++ ·)
          | none => lexFrom (if c = '\'' ∨ c = '"' then some c else none) (word ++ [c]) rest

/-- The tokens of a text, unless it ends inside a literal. -/
def lex (text : List Char) : Option (List Token) :=
  lexFrom none [] text

/-- A blank behind a text that is complete separates it from whatever follows. -/
theorem lexFrom_append_blank {quote : Option Char} {word : Word} {text : List Char}
    {tokens : List Token} (h : lexFrom quote word text = some tokens) (more : List Char) :
    lexFrom quote word (text ++ ' ' :: more) = (lex more).map (tokens ++ ·) := by
  induction text generalizing quote word tokens with
  | nil =>
      cases quote with
      | some mark => simp [lexFrom] at h
      | none =>
          have htokens : ended word = tokens := by simpa [lexFrom] using h
          have hblank : delimiter? ' ' = some [] := rfl
          simp [lexFrom, hblank, htokens, lex]
  | cons c rest ih =>
      cases quote with
      | some mark =>
          simp only [List.cons_append, lexFrom] at h ⊢
          exact ih h
      | none =>
          simp only [List.cons_append, lexFrom] at h ⊢
          cases hdelimiter : delimiter? c with
          | none =>
              rw [hdelimiter] at h
              exact ih h
          | some marks =>
              rw [hdelimiter] at h
              obtain ⟨found, hfound, rfl⟩ := Option.map_eq_some_iff.mp h
              simp only [ih hfound, Option.map_map, List.append_assoc]
              rfl

theorem lex_append_blank {text : List Char} {tokens : List Token} (h : lex text = some tokens)
    (more : List Char) : lex (text ++ ' ' :: more) = (lex more).map (tokens ++ ·) :=
  lexFrom_append_blank h more

/-- The word for a conjunction between two texts is its token between theirs. -/
theorem lex_append_and {left right : List Char} {leftTokens rightTokens : List Token}
    (hleft : lex left = some leftTokens) (hright : lex right = some rightTokens) :
    lex (left ++ [' ', 'A', 'N', 'D', ' '] ++ right) =
      some (leftTokens ++ .and :: rightTokens) := by
  have hand : lex ['A', 'N', 'D'] = some [.and] := by decide
  have hback : lex (['A', 'N', 'D'] ++ ' ' :: right) = some (.and :: rightTokens) := by
    rw [lex_append_blank hand, hright]
    rfl
  have hsplit : left ++ [' ', 'A', 'N', 'D', ' '] ++ right =
      left ++ ' ' :: (['A', 'N', 'D'] ++ ' ' :: right) := by simp
  rw [hsplit, lex_append_blank hleft, hback]
  rfl

/-! ## Writing tokens -/

def Token.spelled : Token → List Char
  | opening => ['(']
  | closing => [')']
  | not => ['N', 'O', 'T']
  | and => ['A', 'N', 'D']
  | or => ['O', 'R']
  | word text => text

def spell (tokens : List Token) : List Char :=
  tokens.flatMap fun token => token.spelled ++ [' ']

/-- Tokens that are known again one by one are known again in a row. -/
theorem lex_spell (tokens : List Token)
    (hplain : ∀ token ∈ tokens, lex token.spelled = some [token]) :
    lex (spell tokens) = some tokens := by
  induction tokens with
  | nil => rfl
  | cons token rest ih =>
      have hrest := ih fun other hother => hplain other (List.mem_cons_of_mem _ hother)
      have hsplit : spell (token :: rest) = token.spelled ++ ' ' :: spell rest := by
        simp [spell]
      rw [hsplit, lex_append_blank (hplain token List.mem_cons_self), hrest]
      rfl

end SqlStatement.Condition
