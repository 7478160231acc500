import SqlStatement.Proofs.Layout
import SqlStatement.Text.Pieces

/-! # Row counts read back

The row counts of a statement stand behind its last ` LIMIT `, up to the
semicolon, as decimal numerals between commas. Conditions and sort keys may have
the same keyword in them, but they all stand before it: only numerals and commas
come behind it, and each numeral gives its row count back.
-/

namespace SqlStatement

/-! ## Numerals -/

theorem isDigit_of_mem_toString {n : Nat} {figure : Char} (h : figure ∈ (toString n).toList) :
    figure.isDigit := by
  rw [Nat.toString_eq_repr, Nat.toList_repr] at h
  exact Nat.isDigit_of_mem_toDigits (by decide) (by decide) h

theorem head?_toDigits_ne_zero {n : Nat} (hpos : 0 < n) :
    (Nat.toDigits 10 n).head? ≠ some '0' := by
  induction n using Nat.strongRecOn with
  | ind n ih =>
      rcases Nat.lt_or_ge n 10 with hsmall | hlarge
      · have hfigures : ∀ figure < 10, 0 < figure → Nat.digitChar figure ≠ '0' := by decide
        rw [Nat.toDigits_of_lt_base hsmall]
        simpa using hfigures n hsmall hpos
      · rw [Nat.toDigits_of_base_le (by decide) hlarge,
          List.head?_append_of_ne_nil _ Nat.toDigits_ne_nil]
        exact ih (n / 10) (by omega) (by omega)

/-- The number behind figures: at least one figure, no sign, and no zero in front. -/
def numeral? (figures : List Char) : Option Nat :=
  if figures ≠ [] ∧ figures.head? ≠ some '0' ∧ figures.all Char.isDigit then
    some (Nat.ofDigitChars 10 figures 0)
  else
    none

theorem numeral?_toString {n : Nat} (hpos : 0 < n) : numeral? (toString n).toList = some n := by
  have hdigits : (toString n).toList.all Char.isDigit :=
    List.all_eq_true.mpr fun _ => isDigit_of_mem_toString
  unfold numeral?
  rw [Nat.toString_eq_repr, Nat.toList_repr] at hdigits ⊢
  rw [if_pos ⟨Nat.toDigits_ne_nil, head?_toDigits_ne_zero hpos, hdigits⟩,
    Nat.ofDigitChars_ten_toDigits]

/-! ## Pieces between commas -/

/-- The pieces between `, `: one more than there are separators. -/
def commaPieces : List Char → List (List Char)
  | [] => [[]]
  | ',' :: ' ' :: rest => [] :: commaPieces rest
  | c :: rest => Text.consPiece c (commaPieces rest)

theorem commaPieces_cons {c : Char} (hc : c ≠ ',') (rest : List Char) :
    commaPieces (c :: rest) = Text.consPiece c (commaPieces rest) := by
  rw [commaPieces]
  intro _ hcomma
  exact absurd hcomma hc

theorem commaPieces_of_not_mem {piece : List Char} (hpiece : ',' ∉ piece) :
    commaPieces piece = [piece] := by
  induction piece with
  | nil => rfl
  | cons c rest ih =>
      obtain ⟨hc, hrest⟩ := not_or.mp (mt List.mem_cons.mpr hpiece)
      rw [commaPieces_cons (Ne.symm hc), ih hrest]
      rfl

theorem commaPieces_append {piece : List Char} (hpiece : ',' ∉ piece) (rest : List Char) :
    commaPieces (piece ++ ',' :: ' ' :: rest) = piece :: commaPieces rest := by
  induction piece with
  | nil => rfl
  | cons c front ih =>
      obtain ⟨hc, hfront⟩ := not_or.mp (mt List.mem_cons.mpr hpiece)
      rw [List.cons_append, commaPieces_cons (Ne.symm hc), ih hfront]
      rfl

theorem commaPieces_intercalate (first : String) (rest : List String)
    (hfree : ∀ item ∈ first :: rest, ',' ∉ item.toList) :
    commaPieces (", ".intercalate (first :: rest)).toList =
      (first :: rest).map String.toList := by
  induction rest generalizing first with
  | nil => simpa using commaPieces_of_not_mem (hfree first (by simp))
  | cons second rest ih =>
      have htext : (", ".intercalate (first :: second :: rest)).toList =
          first.toList ++ ',' :: ' ' :: (", ".intercalate (second :: rest)).toList := by
        rw [String.intercalate_cons_cons]
        simp
      rw [htext, commaPieces_append (hfree first (by simp)),
        ih second fun item hitem => hfree item (List.mem_cons_of_mem _ hitem)]
      rfl

/-! ## Behind the last marker -/

/-- What stands behind the last copy of a marker. -/
def behindLast? (marker : List Char) : List Char → Option (List Char)
  | [] => none
  | c :: rest =>
      match behindLast? marker rest with
      | some back => some back
      | none =>
          if marker.isPrefixOf (c :: rest) then some ((c :: rest).drop marker.length) else none

theorem behindLast?_append {marker text back : List Char}
    (h : behindLast? marker text = some back) (front : List Char) :
    behindLast? marker (front ++ text) = some back := by
  induction front with
  | nil => exact h
  | cons c rest ih => rw [List.cons_append, behindLast?, ih]

/-- There is no marker where one of its characters is missing. -/
theorem behindLast?_eq_none {marker : List Char} {c : Char} (hmarker : c ∈ marker)
    {text : List Char} (htext : c ∉ text) : behindLast? marker text = none := by
  induction text with
  | nil => rfl
  | cons d rest ih =>
      have hfront : ¬ marker.isPrefixOf (d :: rest) := by
        rw [List.isPrefixOf_iff_prefix]
        exact fun hopens => htext (hopens.subset hmarker)
      rw [behindLast?, ih fun hrest => htext (List.mem_cons_of_mem _ hrest)]
      exact if_neg hfront

theorem behindLast?_limit (front : List Char) {back : List Char} (hback : 'L' ∉ back) :
    behindLast? " LIMIT ".toList (front ++ " LIMIT ".toList ++ back) = some back := by
  have hlate : behindLast? " LIMIT ".toList ("IMIT ".toList ++ back) = none :=
    behindLast?_eq_none (c := 'L') (by decide) (by simpa using hback)
  rw [List.append_assoc]
  refine behindLast?_append ?_ front
  show behindLast? " LIMIT ".toList (' ' :: 'L' :: ("IMIT ".toList ++ back)) = some back
  rw [behindLast?, behindLast?, hlate]
  rfl

/-! ## The row counts of a statement -/

def numerals (limits : List RowLimit) : List String :=
  limits.map fun rows => toString rows.count

theorem not_mem_numerals {c : Char} (hc : c.isDigit = false) (limits : List RowLimit) :
    ∀ numeral ∈ numerals limits, c ∉ numeral.toList := by
  intro numeral hnumeral hin
  obtain ⟨rows, -, rfl⟩ := List.mem_map.mp hnumeral
  exact absurd (isDigit_of_mem_toString hin) (by simp [hc])

theorem commaPieces_numerals {limits : List RowLimit} (hsome : limits ≠ []) :
    commaPieces (", ".intercalate (numerals limits)).toList =
      (numerals limits).map String.toList := by
  obtain ⟨rows, rest, rfl⟩ := List.exists_cons_of_ne_nil hsome
  have hfree := not_mem_numerals (c := ',') (by decide) (rows :: rest)
  exact commaPieces_intercalate _ _ hfree

theorem mapM_numeral? (limits : List RowLimit) :
    ((numerals limits).map String.toList).mapM numeral? = some (limits.map RowLimit.count) := by
  induction limits with
  | nil => rfl
  | cons rows rest ih =>
      show (((toString rows.count).toList :: (numerals rest).map String.toList).mapM numeral?) = _
      rw [List.mapM_cons, numeral?_toString rows.pos, ih]
      rfl

/-- A statement with limits ends in their numerals and a semicolon. -/
theorem exists_front_render (head : Head) (set : ClauseSet) (hsome : set.limits ≠ []) :
    ∃ front, (render head set).text.toList = front ++ " LIMIT ".toList ++
      ((", ".intercalate (numerals set.limits)).toList ++ [';']) := by
  have hsegment : segment " LIMIT " ", " (numerals set.limits) =
      " LIMIT " ++ ", ".intercalate (numerals set.limits) := by
    obtain ⟨rows, rest, hlimits⟩ := List.exists_cons_of_ne_nil hsome
    rw [hlimits]
    rfl
  refine ⟨(head.sql ++ (segment " WHERE " " AND " set.filters ++
    segment " ORDER BY " ", " (set.sortKeys.map SortKey.sql))).toList, ?_⟩
  show (head.sql ++ (segment " WHERE " " AND " set.filters
    ++ segment " ORDER BY " ", " (set.sortKeys.map SortKey.sql)
    ++ segment " LIMIT " ", " (numerals set.limits)) ++ ";").toList = _
  rw [hsegment]
  simp only [String.toList_append, List.append_assoc]
  rfl

namespace Sql

/-- The row counts behind the last ` LIMIT ` of a statement, up to its semicolon. -/
def rowCounts? (sql : Sql) : Option (List Nat) :=
  match behindLast? " LIMIT ".toList sql.text.toList with
  | none => none
  | some back =>
      if back.getLast? = some ';' then (commaPieces back.dropLast).mapM numeral? else none

end Sql

/-- The row counts of a statement can be read back, whatever its head and its other clauses. -/
theorem rowCounts?_render (head : Head) (set : ClauseSet) (hsome : set.limits ≠ []) :
    (render head set).rowCounts? = some (set.limits.map RowLimit.count) := by
  obtain ⟨front, htext⟩ := exists_front_render head set hsome
  have hkeyword : 'L' ∉ (", ".intercalate (numerals set.limits)).toList ++ [';'] := by
    rw [List.mem_append, intercalate_eq_itemized, mem_itemized_iff (by decide) (by decide)]
    rintro (⟨numeral, hnumeral, hin⟩ | hin)
    · exact not_mem_numerals (by decide) _ numeral hnumeral hin
    · exact absurd hin (by decide)
  unfold Sql.rowCounts?
  rw [htext, behindLast?_limit front hkeyword]
  simp only [List.getLast?_concat, if_true, List.dropLast_concat, commaPieces_numerals hsome,
    mapM_numeral?]

-- The condition has the keyword and a number of its own, and they are not taken for the limits.
example :
    (render (.select none ⟨"t"⟩) ⟨[.limit ⟨20, by decide, by decide⟩, .filter "a LIMIT 9",
      .limit ⟨1, by decide, by decide⟩]⟩).rowCounts? = some [20, 1] := by
  decide +kernel

end SqlStatement
