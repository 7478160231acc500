import SqlStatement.Proofs.Condition.Token

/-! # The grammar of conditions

Three layers carry the precedence of the connectives: a condition is one or more
terms with OR between them, a term is one or more factors with AND between them,
and a factor is a run of words, a negation or a condition in brackets. The main
statement is that a text has at most one reading.
-/

namespace SqlStatement

mutual

/-- What binds most tightly; an atom is any run of words. -/
inductive Condition.Factor where
  | atom (first : Condition.Word) (more : List Condition.Word)
  | not (negated : Condition.Factor)
  | group (inner : Condition)

inductive Condition.Term where
  | one (factor : Condition.Factor)
  | and (factor : Condition.Factor) (rest : Condition.Term)

inductive Condition where
  | one (term : Condition.Term)
  | or (term : Condition.Term) (rest : Condition)

end

namespace Condition

mutual

def Factor.tokens : Factor → List Token
  | .atom first more => .word first :: more.map .word
  | .not negated => .not :: negated.tokens
  | .group inner => .opening :: (inner.tokens ++ [.closing])

def Term.tokens : Term → List Token
  | .one factor => factor.tokens
  | .and factor rest => factor.tokens ++ .and :: rest.tokens

def tokens : Condition → List Token
  | .one term => term.tokens
  | .or term rest => term.tokens ++ .or :: rest.tokens

end

abbrev Assignment := List Word → Bool

mutual

def Factor.eval (v : Assignment) : Factor → Bool
  | .atom first more => v (first :: more)
  | .not negated => !negated.eval v
  | .group inner => inner.eval v

def Term.eval (v : Assignment) : Term → Bool
  | .one factor => factor.eval v
  | .and factor rest => factor.eval v && rest.eval v

def eval (v : Assignment) : Condition → Bool
  | .one term => term.eval v
  | .or term rest => term.eval v || rest.eval v

end

/-- A text is read as a condition when it consists of the condition's tokens. -/
def Reads (text : String) (condition : Condition) : Prop :=
  lex text.toList = some condition.tokens

instance (text : String) (condition : Condition) : Decidable (Reads text condition) :=
  inferInstanceAs (Decidable (lex text.toList = some condition.tokens))

/-! ## One reading at most -/

/-- How tightly what follows would bind to what has been read. -/
def grip : List Token → Nat
  | .word _ :: _ => 3
  | .and :: _ => 2
  | .or :: _ => 1
  | _ => 0

theorem grip_and (rest : List Token) : grip (.and :: rest) ≤ 2 := Nat.le_refl 2

theorem grip_or (rest : List Token) : grip (.or :: rest) ≤ 1 := Nat.le_refl 1

theorem map_word_append_inj {more other : List Word} {x y : List Token} (hx : grip x ≤ 2)
    (hy : grip y ≤ 2) (h : more.map .word ++ x = other.map .word ++ y) :
    more = other ∧ x = y := by
  induction more generalizing other with
  | nil =>
      cases other with
      | nil => exact ⟨rfl, h⟩
      | cons word other =>
          have hword : x = .word word :: (other.map .word ++ y) := h
          subst hword
          simp [grip] at hx
  | cons word more ih =>
      cases other with
      | nil =>
          have hword : .word word :: (more.map .word ++ x) = y := h
          subst hword
          simp [grip] at hy
      | cons second other =>
          simp only [List.map_cons, List.cons_append, List.cons.injEq, Token.word.injEq] at h
          obtain ⟨rfl, hrest⟩ := h
          obtain ⟨rfl, rfl⟩ := ih hrest
          exact ⟨rfl, rfl⟩

/- A tree is cut off from the front of a text by its tokens alone, provided that
what follows does not bind to it. The induction is on the first of two trees that
begin the same text. -/
mutual

theorem Factor.tokens_append_inj : ∀ (f g : Factor) {x y : List Token}, grip x ≤ 2 →
    grip y ≤ 2 → f.tokens ++ x = g.tokens ++ y → f = g ∧ x = y
  | .atom first more, g, x, y, hx, hy, h => by
      cases g with
      | atom second other =>
          simp only [Factor.tokens, List.cons_append, List.cons.injEq, Token.word.injEq] at h
          obtain ⟨rfl, hrest⟩ := h
          obtain ⟨rfl, rfl⟩ := map_word_append_inj hx hy hrest
          exact ⟨rfl, rfl⟩
      | not negated => simp [Factor.tokens] at h
      | group inner => simp [Factor.tokens] at h
  | .not negated, g, x, y, hx, hy, h => by
      cases g with
      | atom second other => simp [Factor.tokens] at h
      | not other =>
          simp only [Factor.tokens, List.cons_append, List.cons.injEq, true_and] at h
          obtain ⟨rfl, rfl⟩ := Factor.tokens_append_inj negated other hx hy h
          exact ⟨rfl, rfl⟩
      | group inner => simp [Factor.tokens] at h
  | .group inner, g, x, y, hx, hy, h => by
      cases g with
      | atom second other => simp [Factor.tokens] at h
      | not other => simp [Factor.tokens] at h
      | group other =>
          simp only [Factor.tokens, List.cons_append, List.append_assoc, List.cons.injEq,
            true_and, List.nil_append] at h
          obtain ⟨rfl, hrest⟩ := tokens_append_inj inner other (x := .closing :: x)
            (y := .closing :: y) rfl rfl h
          simp only [List.cons.injEq, true_and] at hrest
          exact ⟨rfl, hrest⟩

theorem Term.tokens_append_inj : ∀ (s t : Term) {x y : List Token}, grip x ≤ 1 →
    grip y ≤ 1 → s.tokens ++ x = t.tokens ++ y → s = t ∧ x = y
  | .one f, t, x, y, hx, hy, h => by
      cases t with
      | one g =>
          obtain ⟨rfl, rfl⟩ := Factor.tokens_append_inj f g (by omega) (by omega) h
          exact ⟨rfl, rfl⟩
      | and g rest =>
          simp only [Term.tokens, List.append_assoc, List.cons_append] at h
          obtain ⟨-, rfl⟩ := Factor.tokens_append_inj f g (by omega) (grip_and _) h
          simp [grip] at hx
  | .and f rest, t, x, y, hx, hy, h => by
      cases t with
      | one g =>
          simp only [Term.tokens, List.append_assoc, List.cons_append] at h
          obtain ⟨-, rfl⟩ := Factor.tokens_append_inj f g (grip_and _) (by omega) h
          simp [grip] at hy
      | and g other =>
          simp only [Term.tokens, List.append_assoc, List.cons_append] at h
          obtain ⟨rfl, hrest⟩ := Factor.tokens_append_inj f g (grip_and _) (grip_and _) h
          simp only [List.cons.injEq, true_and] at hrest
          obtain ⟨rfl, rfl⟩ := Term.tokens_append_inj rest other hx hy hrest
          exact ⟨rfl, rfl⟩

theorem tokens_append_inj : ∀ (c d : Condition) {x y : List Token}, grip x = 0 →
    grip y = 0 → c.tokens ++ x = d.tokens ++ y → c = d ∧ x = y
  | .one s, d, x, y, hx, hy, h => by
      cases d with
      | one t =>
          obtain ⟨rfl, rfl⟩ := Term.tokens_append_inj s t (by omega) (by omega) h
          exact ⟨rfl, rfl⟩
      | or t rest =>
          simp only [tokens, List.append_assoc, List.cons_append] at h
          obtain ⟨-, rfl⟩ := Term.tokens_append_inj s t (by omega) (grip_or _) h
          simp [grip] at hx
  | .or s rest, d, x, y, hx, hy, h => by
      cases d with
      | one t =>
          simp only [tokens, List.append_assoc, List.cons_append] at h
          obtain ⟨-, rfl⟩ := Term.tokens_append_inj s t (grip_or _) (by omega) h
          simp [grip] at hy
      | or t other =>
          simp only [tokens, List.append_assoc, List.cons_append] at h
          obtain ⟨rfl, hrest⟩ := Term.tokens_append_inj s t (grip_or _) (grip_or _) h
          simp only [List.cons.injEq, true_and] at hrest
          obtain ⟨rfl, rfl⟩ := tokens_append_inj rest other hx hy hrest
          exact ⟨rfl, rfl⟩

end

theorem tokens_inj {c d : Condition} (h : c.tokens = d.tokens) : c = d :=
  (tokens_append_inj c d (x := []) (y := []) rfl rfl (by simpa using h)).1

theorem Reads.unique {text : String} {c d : Condition} (hc : Reads text c) (hd : Reads text d) :
    c = d :=
  tokens_inj (Option.some.inj (hc.symm.trans hd))

end Condition

end SqlStatement
