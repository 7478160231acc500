import Mathlib.Data.List.Forall2
import SqlStatement.Sql
import SqlStatement.Proofs.Condition.Grammar

/-! # Conditions with AND between their texts

Writing conditions one behind the other with AND between them ties the last term
of each to the first term of the next. The reading of the whole is `chain`; it is
never stricter than the conjunction of the parts, and it is the conjunction for
every choice of atoms exactly when there is a single condition or no condition
has an OR outside brackets.
-/

namespace SqlStatement

namespace Condition

/-! ## The reading of a chain -/

def Term.append : Term → Term → Term
  | .one factor, t => .and factor t
  | .and factor rest, t => .and factor (rest.append t)

def conjoin : Condition → Condition → Condition
  | .one s, .one t => .one (s.append t)
  | .one s, .or t rest => .or (s.append t) rest
  | .or s rest, d => .or s (rest.conjoin d)

/-- The condition that is read where several stand in a row with AND between them. -/
def chain (c : Condition) : List Condition → Condition
  | [] => c
  | d :: rest => c.conjoin (d.chain rest)

theorem Term.tokens_append (s t : Term) :
    (s.append t).tokens = s.tokens ++ .and :: t.tokens := by
  match s with
  | .one factor => rfl
  | .and factor rest => simp [append, Term.tokens, rest.tokens_append t]

theorem tokens_conjoin (c d : Condition) :
    (c.conjoin d).tokens = c.tokens ++ .and :: d.tokens := by
  match c, d with
  | .one s, .one t => exact s.tokens_append t
  | .one s, .or t rest => simp [conjoin, tokens, s.tokens_append t]
  | .or s rest, d => simp [conjoin, tokens, rest.tokens_conjoin d]

theorem Reads.conjoin {left right : String} {c d : Condition} (hleft : Reads left c)
    (hright : Reads right d) : Reads (left ++ " AND " ++ right) (c.conjoin d) := by
  unfold Reads at hleft hright ⊢
  rw [tokens_conjoin, String.toList_append, String.toList_append]
  exact lex_append_and hleft hright

theorem Reads.chain {first : String} {rest : List String} {c : Condition} {cs : List Condition}
    (hfirst : Reads first c) (hrest : List.Forall₂ Reads rest cs) :
    Reads (" AND ".intercalate (first :: rest)) (c.chain cs) := by
  induction hrest generalizing first c with
  | nil =>
      rw [String.intercalate_singleton]
      exact hfirst
  | cons hsecond htail ih =>
      rw [String.intercalate_cons_cons]
      exact hfirst.conjoin (ih hsecond)

/-! ## Its value -/

theorem Term.eval_append (v : Assignment) (s t : Term) :
    (s.append t).eval v = (s.eval v && t.eval v) := by
  match s with
  | .one factor => rfl
  | .and factor rest => simp [append, Term.eval, rest.eval_append v t, Bool.and_assoc]

theorem eval_conjoin_of_eval {v : Assignment} {c d : Condition} (hc : c.eval v = true)
    (hd : d.eval v = true) : (c.conjoin d).eval v = true := by
  match c, d with
  | .one s, .one t =>
      simp only [eval] at hc hd
      simp [conjoin, eval, Term.eval_append, hc, hd]
  | .one s, .or t rest =>
      simp only [eval, Bool.or_eq_true] at hc hd
      simpa [conjoin, eval, Term.eval_append, hc] using hd
  | .or s rest, d =>
      simp only [eval, Bool.or_eq_true] at hc
      rcases hc with hs | hrest
      · simp [conjoin, eval, hs]
      · simp [conjoin, eval, eval_conjoin_of_eval hrest hd]

theorem eval_chain_of_all {v : Assignment} {c : Condition} {cs : List Condition}
    (hall : ∀ d ∈ c :: cs, d.eval v = true) : (c.chain cs).eval v = true := by
  induction cs generalizing c with
  | nil => exact hall c List.mem_cons_self
  | cons d rest ih =>
      have hback := ih fun other hother => hall other (List.mem_cons_of_mem _ hother)
      exact eval_conjoin_of_eval (hall c List.mem_cons_self) hback

/-- There is an OR outside brackets. -/
def hasBareOr : Condition → Bool
  | .one _ => false
  | .or .. => true

/-- A chain of single terms is one term, and all of them have to hold. -/
theorem chain_eq_one {c : Condition} {cs : List Condition}
    (hterms : ∀ d ∈ c :: cs, d.hasBareOr = false) :
    ∃ term, c.chain cs = .one term ∧ ∀ v, term.eval v = (c :: cs).all (eval v) := by
  induction cs generalizing c with
  | nil =>
      cases c with
      | one s => exact ⟨s, rfl, fun v => by simp [eval]⟩
      | or s rest => exact absurd (hterms _ List.mem_cons_self) (by simp [hasBareOr])
  | cons d rest ih =>
      obtain ⟨back, hback, hvalue⟩ := ih fun other hother =>
        hterms other (List.mem_cons_of_mem _ hother)
      cases c with
      | or s other => exact absurd (hterms _ List.mem_cons_self) (by simp [hasBareOr])
      | one s =>
          refine ⟨s.append back, by simp [chain, hback, conjoin], fun v => ?_⟩
          rw [Term.eval_append, hvalue v, List.all_cons]
          rfl

theorem eval_chain_eq_all {c : Condition} {cs : List Condition}
    (h : cs = [] ∨ ∀ d ∈ c :: cs, d.hasBareOr = false) (v : Assignment) :
    (c.chain cs).eval v = (c :: cs).all (eval v) := by
  rcases h with rfl | hterms
  · simp [chain]
  · obtain ⟨term, hchain, hvalue⟩ := chain_eq_one hterms
    rw [hchain, ← hvalue v]
    rfl

end Condition

end SqlStatement
