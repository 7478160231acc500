import Mathlib.Tactic.SplitIfs
import SqlStatement.Text.JsonString

/-! # Objects of JSON

A reader for JSON objects whose values are texts, written without regard to how
this library writes them: blanks may stand between tokens, and any character may
be escaped by its code unit. A text written as a JSON string is read back as it
was, and no line feed stands in what is written.
-/

namespace SqlStatement

namespace Json

/-! ## Tokens -/

inductive Token where
  | opening
  | closing
  | colon
  | comma
  | text (content : String)
  deriving DecidableEq

def isBlank (c : Char) : Bool :=
  c = ' ' || c = '\t' || c = '\n' || c = '\r'

def mark? (c : Char) : Option Token :=
  if c = '\x7b' then some .opening
  else if c = '\x7d' then some .closing
  else if c = ':' then some .colon
  else if c = ',' then some .comma
  else none

def escaped? (letter : Char) : Option Char :=
  if letter = '\x22' ∨ letter = '\x5c' ∨ letter = '/' then some letter
  else if letter = 'b' then some '\x08'
  else if letter = 'f' then some '\x0c'
  else if letter = 'n' then some '\n'
  else if letter = 'r' then some '\r'
  else if letter = 't' then some '\t'
  else none

def hexValue? (c : Char) : Option Nat :=
  if '0' ≤ c ∧ c ≤ '9' then some (c.toNat - 48)
  else if 'a' ≤ c ∧ c ≤ 'f' then some (c.toNat - 87)
  else if 'A' ≤ c ∧ c ≤ 'F' then some (c.toNat - 55)
  else none

/-- The code unit that four hexadecimal digits write. -/
def unit? (a b c d : Char) : Option Nat := do
  return 4096 * (← hexValue? a) + 256 * (← hexValue? b) + 16 * (← hexValue? c) + (← hexValue? d)

def isLeading (unit : Nat) : Bool :=
  0xd800 ≤ unit && unit < 0xdc00

def isTrailing (unit : Nat) : Bool :=
  0xdc00 ≤ unit && unit < 0xe000

def pairedChar (leading trailing : Nat) : Char :=
  Char.ofNat (0x10000 + 1024 * (leading - 0xd800) + (trailing - 0xdc00))

mutual

def tokens? : List Char → Option (List Token)
  | [] => some []
  | c :: rest =>
      if isBlank c then tokens? rest
      else if c = '\x22' then tokensInText? [] rest
      else
        match mark? c with
        | some mark => (tokens? rest).map (mark :: ·)
        | none => none

/-- The tokens from inside a string, of which some characters were read, the last one first. -/
def tokensInText? (back : List Char) : List Char → Option (List Token)
  | [] => none
  | '\x22' :: rest => (tokens? rest).map (.text (String.ofList back.reverse) :: ·)
  | '\x5c' :: 'u' :: a :: b :: c :: d :: rest =>
      match unit? a b c d with
      | none => none
      | some unit =>
          if isLeading unit then
            match rest with
            | '\x5c' :: 'u' :: a :: b :: c :: d :: rest =>
                match unit? a b c d with
                | none => none
                | some other =>
                    if isTrailing other then tokensInText? (pairedChar unit other :: back) rest
                    else none
            | _ => none
          else if isTrailing unit then none
          else tokensInText? (Char.ofNat unit :: back) rest
  | '\x5c' :: letter :: rest =>
      match escaped? letter with
      | some c => tokensInText? (c :: back) rest
      | none => none
  | c :: rest => if c = '\x5c' ∨ c.toNat < 0x20 then none else tokensInText? (c :: back) rest

end

/-! ## Members -/

def members? : List Token → Option (List (String × String))
  | [.text name, .colon, .text content, .closing] => some [(name, content)]
  | .text name :: .colon :: .text content :: .comma :: rest =>
      (members? rest).map ((name, content) :: ·)
  | _ => none

def object? : List Token → Option (List (String × String))
  | [.opening, .closing] => some []
  | .opening :: rest => members? rest
  | _ => none

/-- The object that a text holds: names and contents, in order. -/
def readObject? (text : String) : Option (List (String × String)) :=
  (tokens? text.toList).bind object?

example : readObject? "\x7b \"a\" : \"\\u00e9\\n\\ud83d\\ude00\", \"b\":\"\" \x7d" =
    some [("a", "é\n😀"), ("b", "")] := by
  decide +kernel

/-! ## What is written -/

theorem tokensInText?_quote (back rest : List Char) :
    tokensInText? back ('\x22' :: rest) =
      (tokens? rest).map (.text (String.ofList back.reverse) :: ·) := by
  rw [tokensInText?]

theorem tokensInText?_escaped {letter c : Char} (hletter : escaped? letter = some c)
    (back rest : List Char) :
    tokensInText? back ('\x5c' :: letter :: rest) = tokensInText? (c :: back) rest := by
  have hcode : letter ≠ 'u' := by
    rintro rfl
    cases hletter
  rw [tokensInText?]
  · rw [hletter]
  · intro a b c d rest hu
    exact absurd hu hcode

theorem tokensInText?_code {a b c d : Char} {unit : Nat} (hunit : unit? a b c d = some unit)
    (hsmall : unit < 0xd800) (back rest : List Char) :
    tokensInText? back ('\x5c' :: 'u' :: a :: b :: c :: d :: rest) =
      tokensInText? (Char.ofNat unit :: back) rest := by
  have hleading : isLeading unit = false := by
    unfold isLeading
    simp
    omega
  have htrailing : isTrailing unit = false := by
    unfold isTrailing
    simp
    omega
  rw [tokensInText?, hunit]
  simp [hleading, htrailing]

theorem tokensInText?_plain {c : Char} (hquote : c ≠ '\x22') (hslash : c ≠ '\x5c')
    (hprints : ¬ c.toNat < 0x20) (back rest : List Char) :
    tokensInText? back (c :: rest) = tokensInText? (c :: back) rest := by
  rw [tokensInText?]
  · rw [if_neg]
    simp [hslash, hprints]
  · exact hquote
  · intro a b c d rest hc
    exact absurd hc hslash
  · intro letter rest hc
    exact absurd hc hslash

theorem escaped?_of_jsonLetter? {c letter : Char} (h : Text.jsonLetter? c = some letter) :
    escaped? letter = some c := by
  unfold Text.jsonLetter? at h
  split_ifs at h with hquote hslash hback hfeed hline hreturn htab
  all_goals
    cases h
    subst c
    decide

theorem hexValue?_hexDigit : ∀ n < 16, hexValue? (Text.hexDigit n) = some n := by
  decide

theorem unit?_hexDigits {n : Nat} (h : n < 0x20) :
    unit? '0' '0' (Text.hexDigit (n / 16)) (Text.hexDigit (n % 16)) = some n := by
  have hzero : hexValue? '0' = some 0 := by decide
  have hhigh := hexValue?_hexDigit (n / 16) (by omega)
  have hlow := hexValue?_hexDigit (n % 16) (by omega)
  have hsum : 16 * (n / 16) + n % 16 = n := by omega
  simp [unit?, hzero, hhigh, hlow, hsum]

/-- A character that is written is read as itself. -/
theorem tokensInText?_jsonChar (c : Char) (back rest : List Char) :
    tokensInText? back (Text.jsonChar c ++ rest) = tokensInText? (c :: back) rest := by
  unfold Text.jsonChar
  cases hletter : Text.jsonLetter? c with
  | some letter => exact tokensInText?_escaped (escaped?_of_jsonLetter? hletter) back rest
  | none =>
      by_cases hcontrol : c.toNat < 0x20
      · have hunit := unit?_hexDigits hcontrol
        have hread := tokensInText?_code hunit (by omega) back rest
        rw [Char.ofNat_toNat] at hread
        simpa [hcontrol] using hread
      · have hquote : c ≠ '\x22' := by
          rintro rfl
          cases hletter
        have hslash : c ≠ '\x5c' := by
          rintro rfl
          cases hletter
        simpa [hcontrol] using tokensInText?_plain hquote hslash hcontrol back rest

theorem tokensInText?_flatMap_jsonChar (s back rest : List Char) :
    tokensInText? back (s.flatMap Text.jsonChar ++ '\x22' :: rest) =
      (tokens? rest).map (.text (String.ofList (back.reverse ++ s)) :: ·) := by
  induction s generalizing back with
  | nil => simp [tokensInText?_quote]
  | cons c s ih =>
      rw [List.flatMap_cons, List.append_assoc, tokensInText?_jsonChar, ih]
      simp

/-- A string that is written is one token, and reading goes on behind it. -/
theorem tokens?_jsonChars (s rest : List Char) :
    tokens? (Text.jsonChars s ++ rest) = (tokens? rest).map (.text (String.ofList s) :: ·) := by
  have hblank : isBlank '\x22' = false := by decide
  have hbody := tokensInText?_flatMap_jsonChar s [] rest
  rw [List.reverse_nil, List.nil_append] at hbody
  simp only [Text.jsonChars, List.cons_append, List.append_assoc, List.nil_append]
  rw [tokens?, if_neg (by simp [hblank]), if_pos rfl, hbody]

theorem tokens?_mark {c : Char} {mark : Token} (hmark : mark? c = some mark) (rest : List Char) :
    tokens? (c :: rest) = (tokens? rest).map (mark :: ·) := by
  have hblank : isBlank c = false := by
    unfold mark? at hmark
    split_ifs at hmark with hopen hclose hcolon hcomma
    all_goals
      subst c
      decide
  have hquote : c ≠ '\x22' := by
    rintro rfl
    cases hmark
  rw [tokens?, if_neg (by simp [hblank]), if_neg hquote, hmark]

/-! ## Line feeds -/

theorem hexDigit_ne_newline : ∀ n < 16, Text.hexDigit n ≠ '\n' := by
  decide

theorem newline_not_mem_jsonChar (c : Char) : '\n' ∉ Text.jsonChar c := by
  unfold Text.jsonChar
  cases hletter : Text.jsonLetter? c with
  | some letter =>
      have hread := escaped?_of_jsonLetter? hletter
      have hne : letter ≠ '\n' := by
        rintro rfl
        cases hread
      simpa using hne.symm
  | none =>
      by_cases hcontrol : c.toNat < 0x20
      · have hhigh := hexDigit_ne_newline (c.toNat / 16) (by omega)
        have hlow := hexDigit_ne_newline (c.toNat % 16) (by omega)
        simp [hcontrol, hhigh.symm, hlow.symm]
      · have hne : c ≠ '\n' := by
          rintro rfl
          cases hletter
        simpa [hcontrol] using hne.symm

/-- A line feed is always escaped, so that a string stays on one line. -/
theorem newline_not_mem_jsonString (s : String) : '\n' ∉ (Text.jsonString s).toList := by
  have hbody : '\n' ∉ s.toList.flatMap Text.jsonChar := by
    intro hin
    obtain ⟨c, -, hc⟩ := List.mem_flatMap.mp hin
    exact newline_not_mem_jsonChar c hc
  rw [Text.jsonString, String.toList_ofList, Text.jsonChars]
  simpa using hbody

end Json

end SqlStatement
