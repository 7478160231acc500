import SqlStatement.Trace
import SqlStatement.Proofs.ValidSets

/-! # What is told of a build

What is told follows the result. Of clauses that are refused only the clause is told
that the error is about, whatever stands before it. Of a statement it is told that it
was built, and before that how many limits it has, if there are several. The text is
shown whole or cut behind its first characters; the cut is made at a number of bytes,
and it never goes through a character.
-/

namespace SqlStatement

/-! ## Excerpts -/

/-- What is shown of a text: all of it, or its first characters and a mark. -/
inductive Excerpted : String → String → Prop
  | whole {text} (hshort : text.length ≤ 200) : Excerpted text text
  | cut {front back} (hfront : front.length = 200) (hback : back ≠ "") :
      Excerpted (front ++ back) (front ++ "...")

theorem excerpt?_eq_some_iff (text shown : String) :
    excerpt? text = some shown ↔ Excerpted text shown := by
  constructor
  · intro h
    rcases length_le_or_exists_front text with hshort | ⟨front, back, rfl, hfront, hback⟩
    · rw [excerpt?_of_length_le hshort] at h
      obtain rfl := Option.some.inj h
      exact .whole hshort
    · rw [excerpt?_append hfront hback] at h
      obtain rfl := Option.some.inj h
      exact .cut hfront hback
  · intro h
    cases h with
    | whole hshort => exact excerpt?_of_length_le hshort
    | cut hfront hback => exact excerpt?_append hfront hback

theorem excerpt?_eq_some_excerpt (text : String) : excerpt? text = some (excerpt text) :=
  (Option.some_get _).symm

theorem excerpted_excerpt (text : String) : Excerpted text (excerpt text) :=
  (excerpt?_eq_some_iff _ _).mp (excerpt?_eq_some_excerpt text)

theorem excerpt_eq_iff (text shown : String) : excerpt text = shown ↔ Excerpted text shown := by
  rw [← excerpt?_eq_some_iff, excerpt?_eq_some_excerpt, Option.some.injEq]

namespace Text

/-- In front of a character stand as many characters as its number says. -/
theorem exists_front_of_placed {text : String} {n place : Nat} {c : Char}
    (h : (placed text)[n]? = some (place, c)) :
    ∃ front back, text = front ++ back ∧ front.length = n ∧ place = front.utf8ByteSize := by
  have hlong : n < text.toList.length := by
    rw [String.length_toList]
    by_contra hshort
    rw [(placed_getElem?_eq_none_iff text n).mpr (by omega)] at h
    cases h
  have hfront : (String.ofList (text.toList.take n)).length = n := by
    rw [String.length_ofList, List.length_take]
    omega
  have htext : text = String.ofList (text.toList.take n) ++
      String.ofList (text.toList[n] :: text.toList.drop (n + 1)) := by
    rw [← List.drop_eq_getElem_cons hlong, ← String.ofList_append, List.take_append_drop,
      String.ofList_toList]
  have hplace := placed_getElem?_length (String.ofList (text.toList.take n)) text.toList[n]
    (text.toList.drop (n + 1))
  rw [← htext, hfront, h] at hplace
  exact ⟨_, _, htext, hfront, (Prod.mk.inj (Option.some.inj hplace)).1⟩

/-- At the place of a character a text can be cut. -/
theorem isBoundary_of_placed {text : String} {n place : Nat} {c : Char}
    (h : (placed text)[n]? = some (place, c)) :
    IsBoundary text place ∧
      ∃ front back, before? text place = some front ∧ text = front ++ back ∧ front.length = n := by
  obtain ⟨front, back, rfl, hfront, rfl⟩ := exists_front_of_placed h
  exact ⟨isBoundary_append front back, front, back, before?_append front back, rfl, hfront⟩

end Text

/-! ## Events -/

def Event.logged (event : Event) : Level × String × Event :=
  (event.level, event.message, event)

/-- What is told of a build, beside its result. -/
inductive Told (head : Head) (clauses : List Clause) :
    Except BuildError Sql → List (Level × String × Event) → Prop
  | rejected {offender} (hoffender : head.kind.FirstOffender clauses offender) :
      Told head clauses (.error (.illegalClause offender.kind head.kind))
        [(.debug, "rejected clause", .rejected head.kind offender.kind)]
  | built {conditions keys limits shown} (hadmits : head.kind.AdmitsAll clauses)
      (hmixed : Interleaving clauses conditions keys limits) (hfew : limits.length < 2)
      (hshown : Excerpted (layout head conditions keys limits) shown) :
      Told head clauses (.ok ⟨layout head conditions keys limits⟩)
        [(.debug, "built statement", .built head.kind clauses.length shown)]
  | severalLimits {conditions keys limits shown} (hadmits : head.kind.AdmitsAll clauses)
      (hmixed : Interleaving clauses conditions keys limits) (hseveral : 2 ≤ limits.length)
      (hshown : Excerpted (layout head conditions keys limits) shown) :
      Told head clauses (.ok ⟨layout head conditions keys limits⟩)
        [(.warn, "multiple LIMIT clauses rendered as a comma list",
            .severalLimits limits.length),
          (.debug, "built statement", .built head.kind clauses.length shown)]

section Builds

variable {head : Head} {clauses : List Clause}

theorem tracedBuild_of_firstOffender {offender : Clause}
    (hoffender : head.kind.FirstOffender clauses offender) :
    tracedBuild head clauses = (.error (.illegalClause offender.kind head.kind),
      [.rejected head.kind offender.kind]) := by
  have hrefused := (StatementKind.validate_eq_error_iff head.kind clauses _).mpr
    ⟨offender, hoffender, rfl⟩
  simp only [tracedBuild, Head.validate, hrefused, failedEvents]

theorem tracedBuild_of_admitsAll {conditions : List String} {keys : List SortKey}
    {limits : List RowLimit} (hadmits : head.kind.AdmitsAll clauses)
    (hmixed : Interleaving clauses conditions keys limits) :
    tracedBuild head clauses = (.ok ⟨layout head conditions keys limits⟩,
      let built := .built head.kind clauses.length (excerpt (layout head conditions keys limits))
      if 2 ≤ limits.length then [.severalLimits limits.length, built] else [built]) := by
  have hvalid := (StatementKind.validate_eq_ok_iff head.kind clauses _).mpr ⟨hadmits, rfl⟩
  have htext : render head ⟨clauses⟩ = ⟨layout head conditions keys limits⟩ :=
    congrArg Sql.mk (((written_iff_eq_render _ _ _).mp ⟨_, _, _, hmixed, rfl⟩).symm)
  simp only [tracedBuild, Head.validate, hvalid, builtEvents, htext, hmixed.countOf_eq.2.2,
    ClauseSet.length]

theorem Told.tracedBuild_eq {result : Except BuildError Sql}
    {entries : List (Level × String × Event)} (h : Told head clauses result entries) :
    (tracedBuild head clauses).1 = result ∧
      (tracedBuild head clauses).2.map Event.logged = entries := by
  cases h with
  | rejected hoffender =>
      rw [tracedBuild_of_firstOffender hoffender]
      exact ⟨rfl, rfl⟩
  | built hadmits hmixed hfew hshown =>
      rw [tracedBuild_of_admitsAll hadmits hmixed, (excerpt_eq_iff _ _).mpr hshown,
        if_neg (by omega)]
      exact ⟨rfl, rfl⟩
  | severalLimits hadmits hmixed hseveral hshown =>
      rw [tracedBuild_of_admitsAll hadmits hmixed, (excerpt_eq_iff _ _).mpr hshown,
        if_pos hseveral]
      exact ⟨rfl, rfl⟩

theorem exists_told (head : Head) (clauses : List Clause) :
    ∃ result entries, Told head clauses result entries := by
  by_cases hadmits : head.kind.AdmitsAll clauses
  · have hmixed := Interleaving.of_clauses clauses
    by_cases hseveral : 2 ≤ (ClauseSet.mk clauses).limits.length
    · exact ⟨_, _, .severalLimits hadmits hmixed hseveral (excerpted_excerpt _)⟩
    · exact ⟨_, _, .built hadmits hmixed (by omega) (excerpted_excerpt _)⟩
  · cases hfound : clauses.find? fun clause => !head.kind.permits clause.kind with
    | none =>
        exact absurd ((StatementKind.find?_not_permits_eq_none_iff _ _).mp hfound) hadmits
    | some offender =>
        exact ⟨_, _, .rejected ((StatementKind.find?_not_permits_eq_some_iff _ _ _).mp hfound)⟩

end Builds

/--
A build with events has the result of the build without them, and its events tell just
this result. Every text has an excerpt, because the place of a character, at which a
long text is cut, is always between characters.
-/
theorem tracedBuild_tells_result (head : Head) (clauses : List Clause) :
    (tracedBuild head clauses).1 = build head clauses ∧
    (∀ result entries, Told head clauses result entries ↔
      (tracedBuild head clauses).1 = result ∧
        (tracedBuild head clauses).2.map Event.logged = entries) ∧
    (∀ text, ∃ shown, excerpt? text = some shown ∧ Excerpted text shown) ∧
    (∀ text place c, (Text.placed text)[200]? = some (place, c) →
      Text.IsBoundary text place ∧ ∃ front back, Text.before? text place = some front ∧
        text = front ++ back ∧ front.length = 200) := by
  refine ⟨tracedBuild_fst head clauses, fun result entries => ⟨Told.tracedBuild_eq, ?_⟩,
    fun text => ?_, fun text place c => Text.isBoundary_of_placed⟩
  · rintro ⟨rfl, rfl⟩
    obtain ⟨result, entries, htold⟩ := exists_told head clauses
    obtain ⟨hresult, hentries⟩ := htold.tracedBuild_eq
    rw [hresult, hentries]
    exact htold
  · exact ⟨_, excerpt?_eq_some_excerpt text, excerpted_excerpt text⟩

end SqlStatement
