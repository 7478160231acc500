import SqlStatement.Proofs.Assembly
import SqlStatement.Query

/-! # Queries step by step

A step adds one clause, is refused because of its row count, or builds what is
there. The clauses of a query are those of the steps that were not refused, in
their order, whatever was built in between; its head never changes. Whether the
head admits a clause is asked when the query is built, and not before.
-/

namespace SqlStatement

namespace Query

/-! ## Single steps -/

/-- The clause that a step adds. -/
inductive Step.Adds : Step → Clause → Prop
  | filter (condition : String) : Adds (.filter condition) (.filter condition)
  | orderBy (column : String) : Adds (.orderBy column) (.sort ⟨column, .ascending⟩)
  | orderByDesc (column : String) : Adds (.orderByDesc column) (.sort ⟨column, .descending⟩)
  | limit {requested : Int64} {rows : RowLimit} (hrows : (rows.count : Int) = requested.toInt) :
      Adds (.limit requested) (.limit rows)
  | push (clause : Clause) : Adds (.push clause) clause

/-- The row count for which a step is refused. -/
inductive Step.Refused : Step → Int64 → Prop
  | limit {requested : Int64} (hrows : requested.toInt ≤ 0) : Refused (.limit requested) requested

variable {asked : Step} {clause : Clause} {requested : Int64}

theorem Step.Adds.clause?_eq (h : asked.Adds clause) : asked.clause? = some (.ok clause) := by
  cases h with
  | limit hrows =>
      rw [clause?, RowLimit.ofInt64_eq_ok_iff.mpr hrows]
      rfl
  | filter | orderBy | orderByDesc | push => rfl

theorem Step.Refused.clause?_eq (h : asked.Refused requested) :
    asked.clause? = some (.error (.invalidLimit requested)) := by
  cases h with
  | limit hrows =>
      rw [clause?, RowLimit.ofInt64_eq_error_iff.mpr ⟨hrows, rfl⟩]
      rfl

theorem step_of_adds (h : asked.Adds clause) (query : Query) :
    query.step asked = (query.push clause, .added) := by
  simp only [step, h.clause?_eq]

theorem step_of_refused (h : asked.Refused requested) (query : Query) :
    query.step asked = (query, .failed (.invalidLimit requested)) := by
  simp only [step, h.clause?_eq]

def Reply.ofBuild : Except BuildError Sql → Reply
  | .ok sql => .built sql
  | .error error => .failed error

theorem step_build (query : Query) : query.step .build = (query, .ofBuild query.build) := by
  show (match query.build with
    | .ok sql => (query, Reply.built sql)
    | .error error => (query, Reply.failed error)) = _
  cases query.build <;> rfl

/-- The three kinds of steps. -/
theorem Step.adds_or_refused_or_build (asked : Step) :
    (∃ clause, asked.Adds clause) ∨ (∃ requested, asked.Refused requested) ∨ asked = .build := by
  cases asked with
  | filter condition => exact Or.inl ⟨_, .filter condition⟩
  | orderBy column => exact Or.inl ⟨_, .orderBy column⟩
  | orderByDesc column => exact Or.inl ⟨_, .orderByDesc column⟩
  | limit requested =>
      by_cases hpos : 0 < requested.toInt
      · obtain ⟨rows, hrows⟩ := (RowLimit.exists_count_eq_iff requested).mpr hpos
        exact Or.inl ⟨_, .limit hrows⟩
      · exact Or.inr (Or.inl ⟨_, .limit (by omega)⟩)
  | push clause => exact Or.inl ⟨clause, .push clause⟩
  | build => exact Or.inr (Or.inr rfl)

/-- Apart from building, a step fails for a row count that is asked for, and for nothing else. -/
theorem limit_of_step_failed {query : Query} {error : BuildError} (hbuilds : asked ≠ .build)
    (hfailed : (query.step asked).2 = .failed error) :
    ∃ requested, requested.toInt ≤ 0 ∧ error = .invalidLimit requested ∧
      asked = .limit requested := by
  rcases asked.adds_or_refused_or_build with ⟨clause, hadds⟩ | ⟨requested, hrefused⟩ | hasked
  · rw [step_of_adds hadds] at hfailed
    cases hfailed
  · rw [step_of_refused hrefused] at hfailed
    cases hfailed
    cases hrefused with
    | limit hrows => exact ⟨requested, hrows, rfl, rfl⟩
  · exact absurd hasked hbuilds

/-! ## Runs -/

/-- The clauses of the steps that add one, in order. -/
inductive Gathered : List Step → List Clause → Prop
  | nil : Gathered [] []
  | added {asked clause rest clauses} (hadds : asked.Adds clause) (hrest : Gathered rest clauses) :
      Gathered (asked :: rest) (clause :: clauses)
  | refused {asked requested rest clauses} (hrefused : asked.Refused requested)
      (hrest : Gathered rest clauses) : Gathered (asked :: rest) clauses
  | built {rest clauses} (hrest : Gathered rest clauses) : Gathered (.build :: rest) clauses

theorem exists_gathered (steps : List Step) : ∃ clauses, Gathered steps clauses := by
  induction steps with
  | nil => exact ⟨[], .nil⟩
  | cons asked rest ih =>
      obtain ⟨clauses, hrest⟩ := ih
      rcases asked.adds_or_refused_or_build with ⟨clause, hadds⟩ | ⟨requested, hrefused⟩ | rfl
      · exact ⟨_, .added hadds hrest⟩
      · exact ⟨_, .refused hrefused hrest⟩
      · exact ⟨_, .built hrest⟩

theorem after_eq_of_gathered {steps : List Step} {clauses : List Clause}
    (h : Gathered steps clauses) (query : Query) :
    query.after steps = ⟨query.head, query.clauses ++ clauses⟩ := by
  induction h generalizing query with
  | nil => simp [after]
  | @added asked clause rest clauses hadds hrest ih =>
      show (query.step asked).1.after rest = _
      rw [step_of_adds hadds, ih]
      simp
  | @refused asked requested rest clauses hrefused hrest ih =>
      show (query.step asked).1.after rest = _
      rw [step_of_refused hrefused, ih]
  | @built rest clauses hrest ih =>
      show (query.step .build).1.after rest = _
      rw [step_build, ih]

/-- What a run shows of a step is the step taken after all the steps before it. -/
theorem steps_getElem?_length (query : Query) (before : List Step) (asked : Step)
    (rest : List Step) :
    (query.steps (before ++ asked :: rest))[before.length]? =
      some ((query.after before).step asked) := by
  induction before generalizing query with
  | nil => rfl
  | cons first before ih => exact ih (query.step first).1

/-- The query that steps lead to, without any clause at first. -/
def reached (head : Head) (steps : List Step) : Query :=
  Query.after ⟨head, []⟩ steps

theorem reached_eq_of_gathered (head : Head) {steps : List Step} {clauses : List Clause}
    (h : Gathered steps clauses) : reached head steps = ⟨head, clauses⟩ :=
  after_eq_of_gathered h ⟨head, []⟩

theorem gathered_reached (head : Head) (steps : List Step) :
    Gathered steps (reached head steps).clauses := by
  obtain ⟨clauses, hgathered⟩ := exists_gathered steps
  rw [reached_eq_of_gathered head hgathered]
  exact hgathered

theorem reached_head (head : Head) (steps : List Step) : (reached head steps).head = head := by
  rw [reached_eq_of_gathered head (gathered_reached head steps)]

/--
After any steps a query has its first head and the clauses of the steps that
were not refused, and it is built as they are, or as they are assembled. The
next step adds its clause, legal or not, or builds and leaves the query alone,
or is a limit that is refused because it is not positive, and then nothing happened.
-/
theorem reached_gathers_and_builds (head : Head) (before : List Step) :
    (reached head before).head = head ∧
    (∀ clauses, Gathered before clauses ↔ (reached head before).clauses = clauses) ∧
    (reached head before).build = SqlStatement.build head (reached head before).clauses ∧
    (reached head before).build =
      assemble (.head head :: (reached head before).clauses.map .clause) ∧
    ∀ asked,
      (∀ rest, (Query.steps ⟨head, []⟩ (before ++ asked :: rest))[before.length]? =
        some ((reached head before).step asked)) ∧
      (∀ clause, asked.Adds clause →
        (reached head before).step asked = ((reached head before).push clause, .added)) ∧
      (∀ requested, asked.Refused requested → (reached head before).step asked =
        (reached head before, .failed (.invalidLimit requested))) ∧
      (asked = .build → (reached head before).step asked =
        (reached head before, .ofBuild (reached head before).build)) ∧
      (∀ error, asked ≠ .build → ((reached head before).step asked).2 = .failed error →
        ∃ requested, requested.toInt ≤ 0 ∧ error = .invalidLimit requested ∧
          asked = .limit requested) := by
  have hhead := reached_head head before
  have hgathered := gathered_reached head before
  have hbuild : (reached head before).build =
      SqlStatement.build head (reached head before).clauses := by
    unfold Query.build
    rw [hhead]
  refine ⟨hhead, fun clauses => ⟨fun hother => ?_, fun hsame => hsame ▸ hgathered⟩, hbuild, ?_,
    fun asked => ⟨fun rest => ?_, fun clause hadds => step_of_adds hadds _,
      fun requested hrefused => step_of_refused hrefused _, ?_,
      fun error hbuilds => limit_of_step_failed hbuilds⟩⟩
  · rw [reached_eq_of_gathered head hother]
  · rw [hbuild]
    exact (Parted.of_head_between head [] _).assemble_eq_build.symm
  · exact steps_getElem?_length ⟨head, []⟩ before asked rest
  · rintro rfl
    exact step_build _

-- The sort key is taken although it cannot stay, and the refused limit is not.
example :
    (Query.steps ⟨.delete ⟨"t"⟩, []⟩ [.orderBy "a", .limit 0, .build]).map Prod.snd =
      [.added, .failed (.invalidLimit 0), .failed (.illegalClause .sort .delete)] := by
  decide +kernel

end Query

end SqlStatement
