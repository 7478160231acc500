import SqlStatement.Proofs.Condition.Conjunction

/-! # Conditions up to their atoms

The shape of a condition is what is left when its atoms are wiped out. Since
every atom can be chosen freely, a shape can be given either value, and a chain
with an OR outside brackets can be given a value that its parts do not have.
-/

namespace SqlStatement.Condition

mutual

def Factor.shape : Factor → Factor
  | .atom .. => .atom [] []
  | .not negated => .not negated.shape
  | .group inner => .group inner.shape

def Term.shape : Term → Term
  | .one factor => .one factor.shape
  | .and factor rest => .and factor.shape rest.shape

def shape : Condition → Condition
  | .one term => .one term.shape
  | .or term rest => .or term.shape rest.shape

end

theorem hasBareOr_shape (c : Condition) : c.shape.hasBareOr = c.hasBareOr := by
  cases c <;> rfl

/-! ## Giving a shape a value -/

def settledWord (value : Bool) : Word :=
  if value then ['1'] else ['0']

def settledAtoms : Assignment := fun words => words = [settledWord true]

mutual

/-- The factor with every atom replaced so that it gets the value. -/
def Factor.settle (value : Bool) : Factor → Factor
  | .atom .. => .atom (settledWord value) []
  | .not negated => .not (negated.settle !value)
  | .group inner => .group (inner.settle value)

def Term.settle (value : Bool) : Term → Term
  | .one factor => .one (factor.settle value)
  | .and factor rest => .and (factor.settle value) (rest.settle value)

def settle (value : Bool) : Condition → Condition
  | .one term => .one (term.settle value)
  | .or term rest => .or (term.settle value) (rest.settle value)

end

mutual

theorem Factor.shape_settle : ∀ (f : Factor) (value : Bool), (f.settle value).shape = f.shape
  | .atom .., _ => rfl
  | .not negated, value => congrArg Factor.not (negated.shape_settle !value)
  | .group inner, value => congrArg Factor.group (inner.shape_settle value)

theorem Term.shape_settle : ∀ (t : Term) (value : Bool), (t.settle value).shape = t.shape
  | .one factor, value => congrArg Term.one (factor.shape_settle value)
  | .and factor rest, value =>
      congrArg₂ Term.and (factor.shape_settle value) (rest.shape_settle value)

theorem shape_settle : ∀ (c : Condition) (value : Bool), (c.settle value).shape = c.shape
  | .one term, value => congrArg Condition.one (term.shape_settle value)
  | .or term rest, value =>
      congrArg₂ Condition.or (term.shape_settle value) (rest.shape_settle value)

end

mutual

theorem Factor.eval_settle : ∀ (f : Factor) (value : Bool),
    (f.settle value).eval settledAtoms = value
  | .atom .., value => by cases value <;> rfl
  | .not negated, value => by simp [Factor.settle, Factor.eval, negated.eval_settle]
  | .group inner, value => inner.eval_settle value

theorem Term.eval_settle : ∀ (t : Term) (value : Bool),
    (t.settle value).eval settledAtoms = value
  | .one factor, value => factor.eval_settle value
  | .and factor rest, value => by
      simp [Term.settle, Term.eval, factor.eval_settle, rest.eval_settle]

theorem eval_settle : ∀ (c : Condition) (value : Bool), (c.settle value).eval settledAtoms = value
  | .one term, value => term.eval_settle value
  | .or term rest, value => by
      simp [settle, eval, term.eval_settle, rest.eval_settle]

end

/-! ## Conditions that can be written -/

def Spellable (tokens : List Token) : Prop :=
  ∀ token ∈ tokens, lex token.spelled = some [token]

theorem spellable_append {left right : List Token} :
    Spellable (left ++ right) ↔ Spellable left ∧ Spellable right :=
  List.forall_mem_append

theorem spellable_cons {token : Token} {rest : List Token} :
    Spellable (token :: rest) ↔ lex token.spelled = some [token] ∧ Spellable rest :=
  List.forall_mem_cons

theorem spellable_settledWord (value : Bool) : Spellable [.word (settledWord value)] := by
  cases value <;> simp [Spellable] <;> decide

mutual

theorem Factor.spellable_settle : ∀ (f : Factor) (value : Bool),
    Spellable (f.settle value).tokens
  | .atom .., value => spellable_settledWord value
  | .not negated, value => spellable_cons.mpr ⟨by decide, negated.spellable_settle !value⟩
  | .group inner, value =>
      spellable_cons.mpr ⟨by decide, spellable_append.mpr
        ⟨inner.spellable_settle value, spellable_cons.mpr ⟨by decide, by simp [Spellable]⟩⟩⟩

theorem Term.spellable_settle : ∀ (t : Term) (value : Bool), Spellable (t.settle value).tokens
  | .one factor, value => factor.spellable_settle value
  | .and factor rest, value =>
      spellable_append.mpr ⟨factor.spellable_settle value,
        spellable_cons.mpr ⟨by decide, rest.spellable_settle value⟩⟩

theorem spellable_settle : ∀ (c : Condition) (value : Bool), Spellable (c.settle value).tokens
  | .one term, value => term.spellable_settle value
  | .or term rest, value =>
      spellable_append.mpr ⟨term.spellable_settle value,
        spellable_cons.mpr ⟨by decide, rest.spellable_settle value⟩⟩

end

def text (c : Condition) : String :=
  String.ofList (spell c.tokens)

theorem reads_text {c : Condition} (h : Spellable c.tokens) : Reads c.text c := by
  unfold Reads text
  rw [String.toList_ofList]
  exact lex_spell c.tokens h

/-! ## Telling a chain from its conjunction -/

theorem chain_or (s : Term) (rest : Condition) (cs : List Condition) :
    (Condition.or s rest).chain cs = .or s (rest.chain cs) := by
  cases cs <;> rfl

/-- A choice of atoms for a list of conditions, all of which can be written. -/
def Relabelled (cs ds : List Condition) : Prop :=
  List.Forall₂ (fun c d => d.shape = c.shape ∧ Spellable d.tokens) cs ds

theorem relabelled_settle (cs : List Condition) (value : Bool) :
    Relabelled cs (cs.map (settle value)) := by
  induction cs with
  | nil => exact .nil
  | cons c rest ih => exact .cons ⟨c.shape_settle value, c.spellable_settle value⟩ ih

theorem spellable_or_settle (s : Term) (rest : Condition) (first second : Bool) :
    Spellable (Condition.or (s.settle first) (rest.settle second)).tokens :=
  spellable_append.mpr ⟨s.spellable_settle first,
    spellable_cons.mpr ⟨by decide, rest.spellable_settle second⟩⟩

theorem shape_or_settle (s : Term) (rest : Condition) (first second : Bool) :
    (Condition.or (s.settle first) (rest.settle second)).shape = (Condition.or s rest).shape :=
  congrArg₂ Condition.or (s.shape_settle first) (rest.shape_settle second)

/-- Behind the first term of a chain with a bare OR there is a term that can be made true. -/
theorem exists_relabelled_chain_or {c : Condition} {cs : List Condition}
    (hbare : ∃ d ∈ c :: cs, d.hasBareOr = true) :
    ∃ d ds s rest, Relabelled (c :: cs) (d :: ds) ∧ d.chain ds = .or s rest ∧
      rest.eval settledAtoms = true := by
  induction cs generalizing c with
  | nil =>
      cases c with
      | one s => simp [hasBareOr] at hbare
      | or s rest =>
          exact ⟨_, [], _, _, .cons ⟨shape_or_settle s rest true true,
            spellable_or_settle s rest true true⟩ .nil, rfl, rest.eval_settle true⟩
  | cons e es ih =>
      cases c with
      | one s =>
          have hback : ∃ d ∈ e :: es, d.hasBareOr = true := by
            simpa [hasBareOr] using hbare
          obtain ⟨d, ds, t, rest, hlabels, hchain, hvalue⟩ := ih hback
          refine ⟨(Condition.one s).settle true, d :: ds, (s.settle true).append t, rest,
            .cons ⟨shape_settle _ true, spellable_settle _ true⟩ hlabels, ?_, hvalue⟩
          show conjoin (.one (s.settle true)) (d.chain ds) = _
          rw [hchain]
          rfl
      | or s rest =>
          refine ⟨_, (e :: es).map (settle true), _, _,
            .cons ⟨shape_or_settle s rest true true, spellable_or_settle s rest true true⟩
              (relabelled_settle _ true), chain_or _ _ _, ?_⟩
          apply eval_chain_of_all
          intro other hother
          rcases List.mem_cons.mp hother with rfl | hother
          · exact rest.eval_settle true
          · obtain ⟨original, -, rfl⟩ := List.mem_map.mp hother
            exact original.eval_settle true

/-- With a bare OR, atoms can be chosen so that the chain holds and one of its parts does not. -/
theorem exists_relabelled_chain_ne {c second : Condition} {cs : List Condition}
    (hbare : ∃ d ∈ c :: second :: cs, d.hasBareOr = true) :
    ∃ d ds, Relabelled (c :: second :: cs) (d :: ds) ∧
      (d.chain ds).eval settledAtoms = true ∧ (d :: ds).all (eval settledAtoms) = false := by
  cases c with
  | one s =>
      have hback : ∃ d ∈ second :: cs, d.hasBareOr = true := by
        simpa [hasBareOr] using hbare
      obtain ⟨d, ds, t, rest, hlabels, hchain, hvalue⟩ := exists_relabelled_chain_or hback
      refine ⟨(Condition.one s).settle false, d :: ds,
        .cons ⟨shape_settle _ false, spellable_settle _ false⟩ hlabels, ?_, ?_⟩
      · show eval settledAtoms (conjoin (.one (s.settle false)) (d.chain ds)) = true
        rw [hchain]
        simp [conjoin, eval, hvalue]
      · simp [eval_settle]
  | or s rest =>
      refine ⟨_, (second :: cs).map (settle false),
        .cons ⟨shape_or_settle s rest true false, spellable_or_settle s rest true false⟩
          (relabelled_settle _ false), ?_, ?_⟩
      · rw [chain_or]
        simp [eval, Term.eval_settle]
      · simp [eval_settle]

end SqlStatement.Condition
