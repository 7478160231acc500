import SqlStatement.Proofs.ClauseOrder
import SqlStatement.Proofs.Numerals
import SqlStatement.Query

/-! # Row counts on every route

Row counts are asked for by a list of requests, by the steps of a query, or by a
statement of a configuration, among conditions and sort keys. On each of these
routes the first one that is not positive is what the error tells; otherwise all
of them become limits, and they can be read back from the text.
-/

namespace SqlStatement

/-! ## Row counts that are kept -/

/-- Clauses whose limits are the row counts that were asked for, in order. -/
structure Kept (requested : List Int64) (clauses : List Clause) : Prop where
  range : ∀ rows, Clause.limit rows ∈ clauses → 1 ≤ rows.count ∧ rows.count ≤ 9223372036854775807
  counted : Counted requested (ClauseSet.mk clauses).limits
  /-- Taken as unsigned, a row count is the number that it was. -/
  unsigned : (ClauseSet.mk clauses).limits.map RowLimit.count =
    requested.map fun count => count.toUInt64.toNat

/-- A statement in which the row counts that were asked for can be read. -/
def Sql.Shows (sql : Sql) (requested : List Int64) : Prop :=
  ∃ counts, sql.rowCounts? = some counts ∧ counts.map Int.ofNat = requested.map Int64.toInt

/-- What comes of row counts: the clauses that are made, and the statement that is built of them. -/
structure Exact (head : Head) (requested : List Int64) (made : Except BuildError (List Clause))
    (built : Except BuildError Sql) : Prop where
  refused : (∃ count ∈ requested, count.toInt ≤ 0) →
    ∃ first, FirstFailing (fun count => 0 < count.toInt) requested first ∧
      made = .error (.invalidLimit first) ∧ built = .error (.invalidLimit first)
  kept : (∀ count ∈ requested, 0 < count.toInt) →
    ∃ clauses, made = .ok clauses ∧ Kept requested clauses ∧
      (render head ⟨clauses⟩).Shows requested ∧
      (head.kind = .select → built = .ok (render head ⟨clauses⟩))

theorem RowLimit.toNat_toUInt64 {rows : RowLimit} {requested : Int64}
    (h : (rows.count : Int) = requested.toInt) : rows.count = requested.toUInt64.toNat := by
  have hnonneg : 0 ≤ requested := by
    rw [Int64.le_iff_toInt_le, ← h]
    exact Int.natCast_nonneg _
  rw [Int64.toNat_toUInt64_of_le hnonneg, ← Int64.toNat_toInt, ← h, Int.toNat_natCast]

theorem Counted.map_count {requested : List Int64} {limits : List RowLimit}
    (h : Counted requested limits) :
    limits.map RowLimit.count = requested.map fun count => count.toUInt64.toNat := by
  unfold Counted at h
  induction requested generalizing limits with
  | nil => simpa using h
  | cons first rest ih =>
      obtain ⟨rows, others, rfl⟩ : ∃ rows others, limits = rows :: others := by
        refine List.exists_cons_of_ne_nil ?_
        rintro rfl
        cases h
      obtain ⟨hfirst, hrest⟩ := List.cons.inj h
      rw [List.map_cons, List.map_cons, RowLimit.toNat_toUInt64 hfirst, ih hrest]

theorem Kept.of_counted {requested : List Int64} {clauses : List Clause}
    (h : Counted requested (ClauseSet.mk clauses).limits) : Kept requested clauses where
  range rows _ := by
    have hfits := rows.fits
    rw [Nat.pow_eq] at hfits
    exact ⟨rows.pos, by omega⟩
  counted := h
  unsigned := h.map_count

theorem Kept.shows {requested : List Int64} {clauses : List Clause} (h : Kept requested clauses)
    (hsome : requested ≠ []) (head : Head) : (render head ⟨clauses⟩).Shows requested := by
  have hlimits : (ClauseSet.mk clauses).limits ≠ [] := by
    intro hnone
    have hempty := h.counted
    rw [hnone] at hempty
    exact hsome (List.map_eq_nil_iff.mp hempty.symm)
  refine ⟨_, rowCounts?_render head ⟨clauses⟩ hlimits, ?_⟩
  rw [List.map_map]
  exact h.counted

/-! ## Requests -/

/-- The first row count that is not positive fails them all. -/
theorem RowLimit.mapM_eq_invalidLimit {requested : List Int64}
    (hbad : ∃ count ∈ requested, count.toInt ≤ 0) :
    ∃ first, FirstFailing (fun count => 0 < count.toInt) requested first ∧
      requested.mapM RowLimit.ofInt64 = .error (.invalidLimit first) := by
  obtain ⟨count, hin, hcount⟩ := hbad
  cases hmade : requested.mapM RowLimit.ofInt64 with
  | ok rows =>
      have hpos := (RowLimit.pos_of_mapM hmade).2 count hin
      omega
  | error cause =>
      obtain ⟨before, first, after, hsplit, hbefore, hfirst⟩ := (mapM_eq_error_iff _ _ _).mp hmade
      obtain ⟨hnonpos, rfl⟩ := RowLimit.ofInt64_eq_error_iff.mp hfirst
      refine ⟨first, ⟨before, after, hsplit, fun earlier hearlier => ?_, by omega⟩, rfl⟩
      exact (RowLimit.exists_ofInt64_iff earlier).mp (hbefore earlier hearlier)

namespace Clause

def Request.limit? : Request → Option Int64
  | .limit requested => some requested
  | _ => none

def rowCounts (requests : List Request) : List Int64 :=
  requests.filterMap Request.limit?

/-- The limits are made of the row counts, and of nothing else that is asked for. -/
theorem limits_ofRequests (requests : List Request) :
    (ofRequests requests).map (fun clauses => (ClauseSet.mk clauses).limits) =
      (rowCounts requests).mapM RowLimit.ofInt64 := by
  induction requests with
  | nil => rfl
  | cons request rest ih =>
      cases request with
      | filter _ | sort _ =>
          show _ = (rowCounts rest).mapM RowLimit.ofInt64
          rw [← ih, ofRequests]
          cases ofRequests rest <;> rfl
      | limit requested =>
          show _ = (requested :: rowCounts rest).mapM RowLimit.ofInt64
          rw [List.mapM_cons, ← ih, ofRequests, Request.clause]
          cases RowLimit.ofInt64 requested with
          | error error => rfl
          | ok rows => cases ofRequests rest <;> rfl

theorem ofRequests_eq_error {requests : List Request} {error : BuildError}
    (h : (rowCounts requests).mapM RowLimit.ofInt64 = .error error) :
    ofRequests requests = .error error := by
  rw [← limits_ofRequests] at h
  cases hclauses : ofRequests requests with
  | error other =>
      rw [hclauses] at h
      cases h
      rfl
  | ok clauses =>
      rw [hclauses] at h
      cases h

theorem exists_clauses_of_counted {requests : List Request} {limits : List RowLimit}
    (h : Counted (rowCounts requests) limits) :
    ∃ clauses, ofRequests requests = .ok clauses ∧ (ClauseSet.mk clauses).limits = limits := by
  rw [counted_iff_mapM, ← limits_ofRequests] at h
  cases hclauses : ofRequests requests with
  | error error =>
      rw [hclauses] at h
      cases h
  | ok clauses =>
      rw [hclauses] at h
      exact ⟨clauses, rfl, Except.ok.inj h⟩

def request : Clause → Clause.Request
  | .filter condition => .filter condition
  | .sort key => .sort key
  | .limit rows => .limit (Int64.ofNat rows.count)

theorem clause_request (clause : Clause) : clause.request.clause = .ok clause := by
  cases clause with
  | filter condition => rfl
  | sort key => rfl
  | limit rows =>
      have hmade := RowLimit.ofInt64_eq_ok_iff.mpr rows.toInt_ofNat_count.symm
      show (RowLimit.ofInt64 (Int64.ofNat rows.count)).map Clause.limit = _
      rw [hmade]
      rfl

theorem exact_ofRequests (head : Head) {requests : List Request} (hsome : rowCounts requests ≠ []) :
    Exact head (rowCounts requests) (ofRequests requests)
      (ofRequests requests >>= build head) := by
  constructor
  · intro hbad
    obtain ⟨first, hfirst, hmade⟩ := RowLimit.mapM_eq_invalidLimit hbad
    have hrefused := ofRequests_eq_error hmade
    exact ⟨first, hfirst, hrefused, by rw [hrefused]; rfl⟩
  · intro hpos
    obtain ⟨limits, hcounted⟩ := (exists_counted_iff _).mpr hpos
    obtain ⟨clauses, hclauses, rfl⟩ := exists_clauses_of_counted hcounted
    have hkept := Kept.of_counted hcounted
    refine ⟨clauses, hclauses, hkept, hkept.shows hsome head, fun hselect => ?_⟩
    have hadmits := ((Interleaving.of_clauses clauses).admitsAll_iff head.kind).mpr
      (Or.inl hselect)
    rw [hclauses]
    exact (build_eq_ok_iff head clauses _).mpr ⟨hadmits, rfl⟩

end Clause

/-! ## Queries -/

namespace Query

def attempt (query : Query) (asked : Step) : Except BuildError Query :=
  match query.step asked with
  | (_, .failed error) => .error error
  | (after, _) => .ok after

def chain (query : Query) (steps : List Step) : Except BuildError Query :=
  steps.foldlM attempt query

def Step.request? : Step → Option Clause.Request
  | .filter condition => some (.filter condition)
  | .orderBy column => some (.sort ⟨column, .ascending⟩)
  | .orderByDesc column => some (.sort ⟨column, .descending⟩)
  | .limit requested => some (.limit requested)
  | .push clause => some clause.request
  | .build => none

theorem Step.clause?_eq_map (asked : Step) :
    asked.clause? = asked.request?.map Clause.Request.clause := by
  cases asked with
  | push clause => rw [clause?, request?, Option.map_some, clause.clause_request]
  | filter | orderBy | orderByDesc | limit | build => rfl

theorem attempt_of_request {asked : Step} {request : Clause.Request}
    (h : asked.request? = some request) (query : Query) :
    query.attempt asked = request.clause.map query.push := by
  simp only [attempt, step, asked.clause?_eq_map, h, Option.map_some]
  cases request.clause <;> rfl

theorem Step.exists_request {asked : Step} (h : asked ≠ .build) :
    ∃ request, asked.request? = some request := by
  cases asked with
  | build => exact absurd rfl h
  | filter | orderBy | orderByDesc | limit | push => exact ⟨_, rfl⟩

/-- A chain of steps that only add collects what they ask for. -/
theorem chain_eq (query : Query) {steps : List Step} (hadds : ∀ asked ∈ steps, asked ≠ .build) :
    query.chain steps = (Clause.ofRequests (steps.filterMap Step.request?)).map fun clauses =>
      ⟨query.head, query.clauses ++ clauses⟩ := by
  induction steps generalizing query with
  | nil => simp [chain, Clause.ofRequests, Except.map, pure, Except.pure]
  | cons asked rest ih =>
      obtain ⟨hasked, hrest⟩ := List.forall_mem_cons.mp hadds
      obtain ⟨request, hrequest⟩ := Step.exists_request hasked
      rw [List.filterMap_cons_some hrequest, Clause.ofRequests, chain, List.foldlM_cons,
        attempt_of_request hrequest]
      cases request.clause with
      | error error => rfl
      | ok clause =>
          show (query.push clause).chain rest = _
          rw [ih _ hrest, push_head, push_clauses]
          cases Clause.ofRequests (rest.filterMap Step.request?) with
          | error error => rfl
          | ok clauses => simp [Except.map, bind, Except.bind, pure, Except.pure]

def rowCounts (steps : List Step) : List Int64 :=
  Clause.rowCounts (steps.filterMap Step.request?)

theorem exact_chain (head : Head) {steps : List Step} (hadds : ∀ asked ∈ steps, asked ≠ .build)
    (hsome : rowCounts steps ≠ []) :
    Exact head (rowCounts steps) ((chain ⟨head, []⟩ steps).map Query.clauses)
      (chain ⟨head, []⟩ steps >>= Query.build) := by
  have hclauses : (chain ⟨head, []⟩ steps).map Query.clauses =
      Clause.ofRequests (steps.filterMap Step.request?) := by
    rw [chain_eq _ hadds]
    cases Clause.ofRequests (steps.filterMap Step.request?) <;> rfl
  have hbuild : chain ⟨head, []⟩ steps >>= Query.build =
      Clause.ofRequests (steps.filterMap Step.request?) >>= SqlStatement.build head := by
    rw [chain_eq _ hadds]
    cases Clause.ofRequests (steps.filterMap Step.request?) <;> rfl
  rw [hclauses, hbuild]
  exact Clause.exact_ofRequests head hsome

end Query

/-! ## Statements of a configuration -/

namespace NamedStatement

theorem rowCounts_requests (statement : NamedStatement) :
    Clause.rowCounts statement.requests = statement.limits := by
  simp [Clause.rowCounts, requests, List.filterMap_append, List.filterMap_map,
    Function.comp_def, Clause.Request.limit?]

theorem mapError_cause_buildNamed (statement : NamedStatement) :
    statement.buildNamed.mapError StatementError.cause = statement.build := by
  unfold buildNamed
  cases statement.build <;> rfl

theorem exact_buildNamed (statement : NamedStatement) (hsome : statement.limits ≠ []) :
    Exact statement.head statement.limits statement.clauses
      (statement.buildNamed.mapError StatementError.cause) := by
  have hrequests : Clause.rowCounts statement.requests ≠ [] := by
    rw [rowCounts_requests]
    exact hsome
  have hexact := Clause.exact_ofRequests statement.head hrequests
  rw [rowCounts_requests] at hexact
  rw [mapError_cause_buildNamed]
  exact hexact

end NamedStatement

/--
Row counts are kept exactly on every route: in the clauses that requests stand
for, in a query whose steps add clauses, and in a statement of a configuration.
The first that is not positive is told instead, and then nothing is built; an
error about a statement of a configuration has its name.
-/
theorem row_counts_exact_on_every_route :
    (∀ (head : Head) (requests : List Clause.Request), Clause.rowCounts requests ≠ [] →
      Exact head (Clause.rowCounts requests) (Clause.ofRequests requests)
        (Clause.ofRequests requests >>= build head)) ∧
    (∀ (head : Head) (steps : List Query.Step), (∀ asked ∈ steps, asked ≠ .build) →
      Query.rowCounts steps ≠ [] →
      Exact head (Query.rowCounts steps) ((Query.chain ⟨head, []⟩ steps).map Query.clauses)
        (Query.chain ⟨head, []⟩ steps >>= Query.build)) ∧
    (∀ statement : NamedStatement, statement.limits ≠ [] →
      Exact statement.head statement.limits statement.clauses
        (statement.buildNamed.mapError StatementError.cause) ∧
      ∀ error, statement.buildNamed = .error error → error.name = statement.name) := by
  refine ⟨fun head _ hsome => Clause.exact_ofRequests head hsome,
    fun head _ hadds hsome => Query.exact_chain head hadds hsome,
    fun statement hsome => ⟨statement.exact_buildNamed hsome, fun error herror => ?_⟩⟩
  exact ((statement.buildNamed_eq_error_iff error).mp herror).1.symm

-- The deletion has no place for limits, and still the row count is told, the first bad one.
example :
    Query.chain ⟨.delete ⟨"t"⟩, []⟩ [.limit 3, .filter "a", .limit (-1), .limit 0] >>= Query.build =
      .error (.invalidLimit (-1)) := by
  decide +kernel

end SqlStatement
