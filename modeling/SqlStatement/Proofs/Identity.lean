import SqlStatement.Proofs.Numerals
import SqlStatement.Proofs.Words

/-! # Statements known by their text

A statement is written without quotes, so that its parts can run into each other.
When no reserved word occurs in them, and no comma in what commas separate, the
keywords cut the text into its segments, and each segment gives its items back.
-/

namespace SqlStatement

/-! ## Reserved words -/

/-- The words that tell the parts of a statement apart. -/
def reserved : List (List Char) :=
  ["FROM", "SET", "WHERE", "AND", "ORDER", "LIMIT", "DESC"].map String.toList

def Free (marks spoken : List (List Char)) : Prop :=
  ∀ word ∈ spoken, word ∉ marks

instance (marks spoken : List (List Char)) : Decidable (Free marks spoken) :=
  inferInstanceAs (Decidable (∀ word ∈ spoken, word ∉ marks))

@[simp] theorem free_append {marks first second : List (List Char)} :
    Free marks (first ++ second) ↔ Free marks first ∧ Free marks second := by
  simp only [Free, List.mem_append, or_imp, forall_and]

theorem Free.mono {marks others spoken : List (List Char)} (h : Free others spoken)
    (hmarks : marks ⊆ others) : Free marks spoken :=
  fun word hword hmark => h word hword (hmarks hmark)

theorem free_words_commas {marks : List (List Char)} {items : List String}
    (hmarks : marks ⊆ reserved) (hitems : ∀ item ∈ items, Free marks (words item)) :
    Free marks (words (", ".intercalate items)) := by
  intro word hword hmark
  have hshape : ∀ mark ∈ reserved, mark ≠ [] ∧ mark.getLast? ≠ some ',' := by decide
  have hreserved := hshape word (hmarks hmark)
  rcases mem_words_commas hword with hempty | ⟨item, hitem, hin⟩ | ⟨stem, hstem⟩
  · exact hreserved.1 hempty
  · exact hitems item hitem word hin hmark
  · exact hreserved.2 (by simp [hstem])

theorem free_words_conjunction {marks : List (List Char)} {conditions : List String}
    (hmarks : marks ⊆ reserved) (hand : "AND".toList ∉ marks)
    (hconditions : ∀ condition ∈ conditions, Free marks (words condition)) :
    Free marks (words (" AND ".intercalate conditions)) := by
  induction conditions with
  | nil =>
      have hempty : Free reserved (words "") := by decide
      simpa using hempty.mono hmarks
  | cons condition rest ih =>
      have hcondition := hconditions condition (by simp)
      cases rest with
      | nil => simpa using hcondition
      | cons second rest =>
          have hlead : " AND " = " " ++ "AND" ++ " " := rfl
          have hmark : words "AND" = ["AND".toList] := rfl
          have hrest := ih fun other hother => hconditions other (List.mem_cons_of_mem _ hother)
          rw [String.intercalate_cons_cons, words_append_keyword hlead, hmark]
          simp only [free_append]
          exact ⟨⟨hcondition, by simpa [Free] using hand⟩, hrest⟩

/-! ## Cutting at a mark -/

def Opens (marks spoken : List (List Char)) : Prop :=
  ∀ word ∈ spoken.head?, word ∈ marks

instance (marks spoken : List (List Char)) : Decidable (Opens marks spoken) :=
  inferInstanceAs (Decidable (∀ word ∈ spoken.head?, word ∈ marks))

theorem Opens.mono {marks others spoken : List (List Char)} (h : Opens marks spoken)
    (hmarks : marks ⊆ others) : Opens others spoken :=
  fun word hword => hmarks (h word hword)

theorem Opens.append {marks first second : List (List Char)} (hfirst : Opens marks first)
    (hsecond : Opens marks second) : Opens marks (first ++ second) := by
  cases first with
  | nil => exact hsecond
  | cons word rest => exact hfirst

theorem Opens.append_right {marks first : List (List Char)} (hfirst : Opens marks first)
    (hsome : first ≠ []) (second : List (List Char)) : Opens marks (first ++ second) := by
  obtain ⟨word, rest, rfl⟩ := List.exists_cons_of_ne_nil hsome
  exact hfirst

theorem cut_unique {marks before before' after after' : List (List Char)}
    (hbefore : Free marks before) (hbefore' : Free marks before') (hafter : Opens marks after)
    (hafter' : Opens marks after') (h : before ++ after = before' ++ after') :
    before = before' ∧ after = after' := by
  induction before generalizing before' with
  | nil =>
      cases before' with
      | nil => exact ⟨rfl, h⟩
      | cons word rest =>
          rw [List.nil_append] at h
          exact absurd (hafter word (by simp [h])) (hbefore' word (by simp))
  | cons word rest ih =>
      cases before' with
      | nil =>
          rw [List.nil_append] at h
          exact absurd (hafter' word (by simp [← h])) (hbefore word (by simp))
      | cons word' rest' =>
          obtain ⟨hword, hrest⟩ := List.cons.inj h
          obtain ⟨hsame, hafters⟩ := ih (fun other hin => hbefore other (by simp [hin]))
            (fun other hin => hbefore' other (by simp [hin])) hrest
          exact ⟨by rw [hword, hsame], hafters⟩

/-! ## Segments -/

def segmentWords (keyword separator : String) : List String → List (List Char)
  | [] => []
  | items => words keyword ++ words (separator.intercalate items)

theorem words_append_segment {lead keyword : String} (hlead : lead = " " ++ keyword ++ " ")
    (s separator : String) (items : List String) :
    words (s ++ segment lead separator items) =
      words s ++ segmentWords keyword separator items := by
  cases items with
  | nil => simp [segmentWords]
  | cons first rest =>
      show words (s ++ (lead ++ separator.intercalate (first :: rest))) = _
      rw [← String.append_assoc, words_append_keyword hlead, List.append_assoc]
      rfl

theorem opens_segmentWords {marks : List (List Char)} {keyword : String}
    (hkeyword : Opens marks (words keyword)) (separator : String) (items : List String) :
    Opens marks (segmentWords keyword separator items) := by
  cases items with
  | nil => simp [segmentWords, Opens]
  | cons first rest => exact hkeyword.append_right (words_ne_nil keyword) _

theorem free_segmentWords {marks : List (List Char)} {keyword separator : String}
    {items : List String} (hkeyword : Free marks (words keyword))
    (hitems : Free marks (words (separator.intercalate items))) :
    Free marks (segmentWords keyword separator items) := by
  cases items with
  | nil => simp [segmentWords, Free]
  | cons first rest => exact free_append.mpr ⟨hkeyword, hitems⟩

/-- Equal segments are both empty, or both hold items whose joined texts are equal. -/
theorem segmentWords_cases {keyword separator : String} {items others : List String}
    (h : segmentWords keyword separator items = segmentWords keyword separator others) :
    (items = [] ∧ others = []) ∨ (items ≠ [] ∧ others ≠ [] ∧
      separator.intercalate items = separator.intercalate others) := by
  have hkeyword := words_ne_nil keyword
  cases items with
  | nil =>
      cases others with
      | nil => exact Or.inl ⟨rfl, rfl⟩
      | cons first rest => simp [segmentWords, hkeyword] at h
  | cons first rest =>
      cases others with
      | nil => simp [segmentWords, hkeyword] at h
      | cons first' rest' =>
          have hjoined := List.append_cancel_left h
          exact Or.inr ⟨by simp, by simp, words_injective hjoined⟩

/-! ## Legible statements -/

def Plain (text : String) : Prop :=
  Free reserved (words text)

instance (text : String) : Decidable (Plain text) :=
  inferInstanceAs (Decidable (Free reserved (words text)))

theorem Plain.free {text : String} (h : Plain text) {marks : List (List Char)}
    (hmarks : marks ⊆ reserved) : Free marks (words text) :=
  Free.mono h hmarks

/-- A text that can stand between commas. -/
def PlainItem (text : String) : Prop :=
  Plain text ∧ ',' ∉ text.toList

instance (text : String) : Decidable (PlainItem text) :=
  inferInstanceAs (Decidable (Plain text ∧ ',' ∉ text.toList))

/-- Texts that can be told apart when commas separate them. -/
def PlainItems (items : List String) : Prop :=
  ∀ item ∈ items, PlainItem item ∧ item ≠ ""

instance (items : List String) : Decidable (PlainItems items) :=
  inferInstanceAs (Decidable (∀ item ∈ items, PlainItem item ∧ item ≠ ""))

namespace PlainItems

variable {items : List String}

theorem commaFree (h : PlainItems items) : ∀ item ∈ items, ',' ∉ item.toList :=
  fun item hitem => (h item hitem).1.2

theorem free (h : PlainItems items) {marks : List (List Char)} (hmarks : marks ⊆ reserved) :
    Free marks (words (", ".intercalate items)) :=
  free_words_commas hmarks fun item hitem => (h item hitem).1.1.free hmarks

theorem intercalate_ne_empty {first : String} {rest : List String}
    (h : PlainItems (first :: rest)) : ", ".intercalate (first :: rest) ≠ "" := by
  intro hempty
  have hsplit := splitOn_commas first rest h.commaFree
  rw [hempty] at hsplit
  have hfirst : [] = first.toList := (List.cons.inj hsplit).1
  exact (h first (by simp)).2 (String.toList_inj.mp hfirst.symm)

theorem injective {others : List String} (h : PlainItems items) (h' : PlainItems others)
    (hjoined : ", ".intercalate items = ", ".intercalate others) : items = others := by
  cases items with
  | nil =>
      cases others with
      | nil => rfl
      | cons first rest => exact absurd (by simpa using hjoined.symm) h'.intercalate_ne_empty
  | cons first rest =>
      cases others with
      | nil => exact absurd (by simpa using hjoined) h.intercalate_ne_empty
      | cons first' rest' =>
          exact commas_injective (by simp) (by simp) h.commaFree h'.commaFree hjoined

end PlainItems

/-! ## Heads -/

theorem StatementKind.keyword_injective {kind other : StatementKind}
    (h : kind.keyword = other.keyword) : kind = other := by
  cases kind <;> cases other <;> first | rfl | exact absurd h (by decide)

theorem Table.eq_of_words {table other : Table} (h : words table.name = words other.name) :
    table = other := by
  cases table
  cases other
  exact congrArg Table.mk (words_injective h)

namespace Head

/-- The names of a head are plain, and its items can be told apart and from a star. -/
def Legible : Head → Prop
  | .select none table => Plain table.name
  | .select (some columns) table =>
      PlainItems columns ∧ columns ≠ ["*"] ∧ Plain table.name
  | .update table assignments => Plain table.name ∧ PlainItems assignments
  | .delete table => Plain table.name

theorem words_select (columns : Option (List String)) (table : Table) :
    words (Head.select columns table).sql =
      words "SELECT" ++ words (projection columns) ++ words "FROM" ++ words table.name := by
  have hlead : " FROM " = " " ++ "FROM" ++ " " := rfl
  show words ("SELECT" ++ " " ++ projection columns ++ " FROM " ++ table.name) = _
  rw [words_append_keyword hlead, words_append_space]

theorem words_update (table : Table) (assignments : List String) :
    words (Head.update table assignments).sql =
      words "UPDATE" ++ words "FROM" ++ words table.name ++ words "SET" ++
        words (", ".intercalate assignments) := by
  have hlead : " SET " = " " ++ "SET" ++ " " := rfl
  show words ("UPDATE" ++ " " ++ "FROM" ++ " " ++ table.name ++ " SET " ++ _) = _
  rw [words_append_keyword hlead, words_append_space, words_append_space]

theorem words_delete (table : Table) :
    words (Head.delete table).sql = words "DELETE" ++ words "FROM" ++ words table.name := by
  show words ("DELETE" ++ " " ++ "FROM" ++ " " ++ table.name) = _
  rw [words_append_space, words_append_space]

theorem head?_words (head : Head) :
    (words head.sql).head? = some head.kind.keyword.toList := by
  cases head with
  | select columns table =>
      have hword : words "SELECT" = ["SELECT".toList] := rfl
      rw [words_select, hword]
      rfl
  | update table assignments =>
      have hword : words "UPDATE" = ["UPDATE".toList] := rfl
      rw [words_update, hword]
      rfl
  | delete table =>
      have hword : words "DELETE" = ["DELETE".toList] := rfl
      rw [words_delete, hword]
      rfl

theorem kind_eq_of_words {head other : Head} (h : words head.sql = words other.sql) :
    head.kind = other.kind := by
  have hfirst := congrArg List.head? h
  rw [head?_words, head?_words] at hfirst
  exact StatementKind.keyword_injective (String.toList_inj.mp (Option.some.inj hfirst))

theorem free_projection {columns : Option (List String)} {table : Table}
    (h : (Head.select columns table).Legible) {marks : List (List Char)}
    (hmarks : marks ⊆ reserved) : Free marks (words (projection columns)) := by
  cases columns with
  | none =>
      have hstar : Plain "*" := by decide
      exact hstar.free hmarks
  | some columns => exact h.1.free hmarks

theorem projection_injective {columns others : Option (List String)} {table table' : Table}
    (h : (Head.select columns table).Legible) (h' : (Head.select others table').Legible)
    (hprojection : projection columns = projection others) : columns = others := by
  have hstar : PlainItems ["*"] := by decide
  cases columns with
  | none =>
      cases others with
      | none => rfl
      | some others =>
          have hlist := hstar.injective h'.1 (by simpa [projection] using hprojection)
          exact absurd hlist.symm h'.2.1
  | some columns =>
      cases others with
      | none =>
          have hlist := h.1.injective hstar (by simpa [projection] using hprojection)
          exact absurd hlist h.2.1
      | some others => rw [h.1.injective h'.1 hprojection]

theorem plain_table {head : Head} (h : head.Legible) : Plain head.table.name := by
  cases head with
  | select columns table =>
      cases columns with
      | none => exact h
      | some columns => exact h.2.2
  | update table assignments => exact h.1
  | delete table => exact h

/-- The words that open the segments behind a head. -/
def followers : List (List Char) :=
  ["WHERE", "ORDER", "LIMIT"].map String.toList

theorem free_words {head : Head} (h : head.Legible) : Free followers (words head.sql) := by
  have hmarks : followers ⊆ reserved := by decide
  have htable := (plain_table h).free hmarks
  have hfrom : Free followers (words "FROM") := by decide
  cases head with
  | select columns table =>
      have hselect : Free followers (words "SELECT") := by decide
      rw [words_select]
      simp only [free_append]
      exact ⟨⟨⟨hselect, free_projection h hmarks⟩, hfrom⟩, htable⟩
  | update table assignments =>
      have hupdate : Free followers (words "UPDATE") := by decide
      have hset : Free followers (words "SET") := by decide
      rw [words_update]
      simp only [free_append]
      exact ⟨⟨⟨⟨hupdate, hfrom⟩, htable⟩, hset⟩, h.2.free hmarks⟩
  | delete table =>
      have hdelete : Free followers (words "DELETE") := by decide
      rw [words_delete]
      simp only [free_append]
      exact ⟨⟨hdelete, hfrom⟩, htable⟩

theorem eq_of_words_select {columns others : Option (List String)} {table table' : Table}
    (h : (Head.select columns table).Legible) (h' : (Head.select others table').Legible)
    (hwords : words (Head.select columns table).sql = words (Head.select others table').sql) :
    Head.select columns table = .select others table' := by
  have hmarks : ["FROM".toList] ⊆ reserved := by decide
  have hopens : Opens ["FROM".toList] (words "FROM") := by decide
  have hfrom := words_ne_nil "FROM"
  simp only [words_select, List.append_assoc] at hwords
  obtain ⟨hprojection, htable⟩ := cut_unique (free_projection h hmarks)
    (free_projection h' hmarks) (hopens.append_right hfrom _) (hopens.append_right hfrom _)
    (List.append_cancel_left hwords)
  rw [projection_injective h h' (words_injective hprojection),
    Table.eq_of_words (List.append_cancel_left htable)]

theorem eq_of_words_update {assignments others : List String} {table table' : Table}
    (h : (Head.update table assignments).Legible) (h' : (Head.update table' others).Legible)
    (hwords : words (Head.update table assignments).sql = words (Head.update table' others).sql) :
    Head.update table assignments = .update table' others := by
  have hmarks : ["SET".toList] ⊆ reserved := by decide
  have hopens : Opens ["SET".toList] (words "SET") := by decide
  have hset := words_ne_nil "SET"
  simp only [words_update, List.append_assoc] at hwords
  have hrest := List.append_cancel_left (List.append_cancel_left hwords)
  obtain ⟨htable, hitems⟩ := cut_unique (h.1.free hmarks) (h'.1.free hmarks)
    (hopens.append_right hset _) (hopens.append_right hset _) hrest
  rw [h.2.injective h'.2 (words_injective (List.append_cancel_left hitems)),
    Table.eq_of_words htable]

theorem eq_of_words {head other : Head} (h : head.Legible) (h' : other.Legible)
    (hwords : words head.sql = words other.sql) : head = other := by
  have hkind := kind_eq_of_words hwords
  cases head with
  | select columns table =>
      cases other with
      | select others table' => exact eq_of_words_select h h' hwords
      | update table' assignments => cases hkind
      | delete table' => cases hkind
  | update table assignments =>
      cases other with
      | select columns table' => cases hkind
      | update table' others => exact eq_of_words_update h h' hwords
      | delete table' => cases hkind
  | delete table =>
      cases other with
      | select columns table' => cases hkind
      | update table' assignments => cases hkind
      | delete table' =>
          rw [words_delete, words_delete] at hwords
          rw [Table.eq_of_words (List.append_cancel_left hwords)]

end Head

/-! ## Clauses -/

theorem conditions_injective {conditions others : List String}
    (h : ∀ condition ∈ conditions, Plain condition) (h' : ∀ condition ∈ others, Plain condition)
    (hwords : segmentWords "WHERE" " AND " conditions = segmentWords "WHERE" " AND " others) :
    conditions = others := by
  have hand : ["AND".toList] ⊆ reserved := by decide
  have hfree : ∀ conditions : List String, (∀ condition ∈ conditions, Plain condition) →
      ∀ spoken ∈ conditions.map words, "AND".toList ∉ spoken := by
    intro conditions hplain spoken hspoken hmark
    obtain ⟨condition, hcondition, rfl⟩ := List.mem_map.mp hspoken
    exact (hplain condition hcondition).free hand _ hmark (by simp)
  rcases segmentWords_cases hwords with ⟨rfl, rfl⟩ | ⟨hsome, hothers, hjoined⟩
  · rfl
  · obtain ⟨first, rest, rfl⟩ := List.exists_cons_of_ne_nil hsome
    obtain ⟨first', rest', rfl⟩ := List.exists_cons_of_ne_nil hothers
    have hsplit := congrArg (fun text => (words text).splitOn "AND".toList) hjoined
    simp only [words_conjunction, ← List.map_cons] at hsplit
    rw [List.splitOn_intercalate _ (hfree _ h) (by simp),
      List.splitOn_intercalate _ (hfree _ h') (by simp)] at hsplit
    exact (List.map_inj_right fun _ _ => words_injective).mp hsplit

namespace SortKey

theorem words_descending (column : String) :
    words (column ++ " DESC") = words column ++ ["DESC".toList] := by
  have hlead : column ++ " DESC" = column ++ " " ++ "DESC" := by
    rw [String.append_assoc]
    rfl
  have hword : words "DESC" = ["DESC".toList] := rfl
  rw [hlead, words_append_space, hword]

theorem free_words_sql {key : SortKey} (h : PlainItem key.column) :
    Free ["LIMIT".toList] (words key.sql) := by
  have hcolumn : Free ["LIMIT".toList] (words key.column) := h.1.free (by decide)
  obtain ⟨column, direction⟩ := key
  cases direction with
  | ascending => exact hcolumn
  | descending =>
      show Free ["LIMIT".toList] (words (column ++ " DESC"))
      rw [words_descending]
      exact free_append.mpr ⟨hcolumn, by decide⟩

theorem commaFree_sql {key : SortKey} (h : PlainItem key.column) : ',' ∉ key.sql.toList := by
  obtain ⟨column, direction⟩ := key
  have hcolumn : ',' ∉ column.toList := h.2
  have hmark : ',' ∉ " DESC".toList := by decide
  cases direction with
  | ascending => exact hcolumn
  | descending =>
      show ',' ∉ (column ++ " DESC").toList
      rw [String.toList_append, List.mem_append, not_or]
      exact ⟨hcolumn, hmark⟩

theorem sql_injective {key other : SortKey} (h : PlainItem key.column)
    (h' : PlainItem other.column) (hsql : key.sql = other.sql) : key = other := by
  have hmark : ∀ {column column' : String}, PlainItem column → column ≠ column' ++ " DESC" := by
    intro column column' hplain hcolumn
    have hdesc : "DESC".toList ∈ words column := by
      rw [hcolumn, words_descending]
      simp
    exact hplain.1 _ hdesc (by decide)
  obtain ⟨column, direction⟩ := key
  obtain ⟨column', direction'⟩ := other
  cases direction with
  | ascending =>
      cases direction' with
      | ascending => exact congrArg (SortKey.mk · .ascending) hsql
      | descending => exact absurd hsql (hmark h)
  | descending =>
      cases direction' with
      | ascending => exact absurd hsql.symm (hmark h')
      | descending =>
          exact congrArg (SortKey.mk · .descending) ((String.append_left_inj _).mp hsql)

end SortKey

theorem sortKeys_injective {keys others : List SortKey} (h : ∀ key ∈ keys, PlainItem key.column)
    (h' : ∀ key ∈ others, PlainItem key.column)
    (hsql : keys.map SortKey.sql = others.map SortKey.sql) : keys = others := by
  induction keys generalizing others with
  | nil => exact (List.map_eq_nil_iff.mp hsql.symm).symm
  | cons key rest ih =>
      cases others with
      | nil => cases hsql
      | cons other others =>
          obtain ⟨hfirst, hrest⟩ := List.cons.inj hsql
          rw [SortKey.sql_injective (h key (by simp)) (h' other (by simp)) hfirst,
            ih (fun one hone => h one (by simp [hone])) (fun one hone => h' one (by simp [hone]))
              hrest]

namespace RowLimit

theorem commaFree_toString (rows : RowLimit) : ',' ∉ (toString rows.count).toList := by
  intro hcomma
  exact absurd (isDigit_of_mem_toString hcomma) (by decide)

theorem toString_injective {rows other : RowLimit}
    (h : toString rows.count = toString other.count) : rows = other := by
  have hdigits := congrArg (fun text => Nat.ofDigitChars 10 text.toList 0) h
  simp only [Nat.toString_eq_repr, Nat.toList_repr, Nat.ofDigitChars_ten_toDigits] at hdigits
  cases rows
  cases other
  cases hdigits
  rfl

end RowLimit

/-- Equal segments with commas hold the same items. -/
theorem segmentWords_commas_injective {keyword : String} {items others : List String}
    (hfree : ∀ item ∈ items, ',' ∉ item.toList) (hfree' : ∀ item ∈ others, ',' ∉ item.toList)
    (hwords : segmentWords keyword ", " items = segmentWords keyword ", " others) :
    items = others := by
  rcases segmentWords_cases hwords with ⟨rfl, rfl⟩ | ⟨hsome, hothers, hjoined⟩
  · rfl
  · exact commas_injective hsome hothers hfree hfree' hjoined

/-! ## Statements -/

/-- The conditions and the columns of the sort keys are plain. -/
structure ClauseSet.Legible (set : ClauseSet) : Prop where
  conditions : ∀ condition ∈ set.filters, Plain condition
  columns : ∀ key ∈ set.sortKeys, PlainItem key.column

/-- The same head and the same clauses of each kind, whatever the order among the kinds. -/
structure SameStatement (head : Head) (set : ClauseSet) (head' : Head) (set' : ClauseSet) :
    Prop where
  head : head = head'
  conditions : set.filters = set'.filters
  sortKeys : set.sortKeys = set'.sortKeys
  limits : set.limits = set'.limits

namespace ClauseSet

def filterWords (set : ClauseSet) : List (List Char) :=
  segmentWords "WHERE" " AND " set.filters

def sortWords (set : ClauseSet) : List (List Char) :=
  segmentWords "ORDER BY" ", " (set.sortKeys.map SortKey.sql)

def limitWords (set : ClauseSet) : List (List Char) :=
  segmentWords "LIMIT" ", " (set.limits.map fun rows => toString rows.count)

def afterFilters : List (List Char) :=
  ["ORDER", "LIMIT"].map String.toList

def afterSortKeys : List (List Char) :=
  ["LIMIT"].map String.toList

theorem opens_limitWords (set : ClauseSet) : Opens afterSortKeys set.limitWords :=
  opens_segmentWords (by decide) _ _

theorem opens_sortWords (set : ClauseSet) :
    Opens afterFilters (set.sortWords ++ set.limitWords) :=
  (opens_segmentWords (by decide) _ _).append (set.opens_limitWords.mono (by decide))

theorem opens_filterWords (set : ClauseSet) :
    Opens Head.followers (set.filterWords ++ (set.sortWords ++ set.limitWords)) :=
  (opens_segmentWords (by decide) _ _).append (set.opens_sortWords.mono (by decide))

theorem free_filterWords {set : ClauseSet} (h : set.Legible) :
    Free afterFilters set.filterWords := by
  have hmarks : afterFilters ⊆ reserved := by decide
  refine free_segmentWords (by decide) (free_words_conjunction hmarks (by decide) ?_)
  exact fun condition hcondition => (h.conditions condition hcondition).free hmarks

theorem free_sortWords {set : ClauseSet} (h : set.Legible) :
    Free afterSortKeys set.sortWords := by
  refine free_segmentWords (by decide) (free_words_commas (by decide) ?_)
  intro entry hentry
  obtain ⟨key, hkey, rfl⟩ := List.mem_map.mp hentry
  exact SortKey.free_words_sql (h.columns key hkey)

theorem segments_unique {set other : ClauseSet} (h : set.Legible) (h' : other.Legible)
    (hwords : set.filterWords ++ (set.sortWords ++ set.limitWords) =
      other.filterWords ++ (other.sortWords ++ other.limitWords)) :
    set.filters = other.filters ∧ set.sortKeys = other.sortKeys ∧ set.limits = other.limits := by
  obtain ⟨hfilters, hrest⟩ := cut_unique (free_filterWords h) (free_filterWords h')
    set.opens_sortWords other.opens_sortWords hwords
  obtain ⟨hsorts, hlimits⟩ := cut_unique (free_sortWords h) (free_sortWords h')
    set.opens_limitWords other.opens_limitWords hrest
  have hentries : ∀ {set : ClauseSet}, set.Legible →
      ∀ entry ∈ set.sortKeys.map SortKey.sql, ',' ∉ entry.toList := by
    intro set hset entry hentry
    obtain ⟨key, hkey, rfl⟩ := List.mem_map.mp hentry
    exact SortKey.commaFree_sql (hset.columns key hkey)
  have hcounts : ∀ limits : List RowLimit,
      ∀ entry ∈ limits.map (fun rows => toString rows.count), ',' ∉ entry.toList := by
    intro limits entry hentry
    obtain ⟨rows, -, rfl⟩ := List.mem_map.mp hentry
    exact rows.commaFree_toString
  refine ⟨conditions_injective h.conditions h'.conditions hfilters, ?_, ?_⟩
  · have hsql := segmentWords_commas_injective (hentries h) (hentries h') hsorts
    exact sortKeys_injective h.columns h'.columns hsql
  · have htexts := segmentWords_commas_injective (hcounts _) (hcounts _) hlimits
    exact (List.map_inj_right fun _ _ => RowLimit.toString_injective).mp htexts

end ClauseSet

theorem words_statement (head : Head) (set : ClauseSet) :
    words (head.sql ++ set.sql) =
      words head.sql ++ (set.filterWords ++ (set.sortWords ++ set.limitWords)) := by
  have hwhere : " WHERE " = " " ++ "WHERE" ++ " " := rfl
  have horder : " ORDER BY " = " " ++ "ORDER BY" ++ " " := rfl
  have hlimit : " LIMIT " = " " ++ "LIMIT" ++ " " := rfl
  unfold ClauseSet.sql
  rw [← String.append_assoc, ← String.append_assoc, words_append_segment hlimit,
    words_append_segment horder, words_append_segment hwhere]
  simp only [ClauseSet.filterWords, ClauseSet.sortWords, ClauseSet.limitWords, List.append_assoc]

theorem render_text_of_same {head other : Head} {set set' : ClauseSet}
    (h : SameStatement head set other set') :
    (render head set).text = (render other set').text := by
  have hsql : set.sql = set'.sql := by
    unfold ClauseSet.sql
    rw [h.conditions, h.sortKeys, h.limits]
  show head.sql ++ set.sql ++ ";" = other.sql ++ set'.sql ++ ";"
  rw [h.head, hsql]

theorem same_of_render_text {head other : Head} {set set' : ClauseSet}
    (hhead : head.Legible) (hset : set.Legible) (hother : other.Legible) (hset' : set'.Legible)
    (h : (render head set).text = (render other set').text) :
    SameStatement head set other set' := by
  have htext : head.sql ++ set.sql = other.sql ++ set'.sql := (String.append_left_inj ";").mp h
  have hwords := congrArg words htext
  rw [words_statement, words_statement] at hwords
  obtain ⟨hheads, hsegments⟩ := cut_unique (Head.free_words hhead) (Head.free_words hother)
    set.opens_filterWords set'.opens_filterWords hwords
  obtain ⟨hconditions, hkeys, hlimits⟩ := ClauseSet.segments_unique hset hset' hsegments
  exact ⟨Head.eq_of_words hhead hother hheads, hconditions, hkeys, hlimits⟩

/--
The same statement is always written alike, and legible statements that are
written alike are the same.
-/
theorem render_eq_iff_sameStatement (head other : Head) (set set' : ClauseSet) :
    (SameStatement head set other set' → render head set = render other set') ∧
    (head.Legible → set.Legible → other.Legible → set'.Legible →
      (render head set = render other set' ↔ SameStatement head set other set')) := by
  have hsame : SameStatement head set other set' → render head set = render other set' :=
    fun h => congrArg Sql.mk (render_text_of_same h)
  refine ⟨hsame, fun hhead hset hother hset' => ⟨fun h => ?_, hsame⟩⟩
  exact same_of_render_text hhead hset hother hset' (congrArg Sql.text h)

def ranked : ClauseSet :=
  ⟨[.filter "age > 3", .filter "name", .sort ⟨"age", .descending⟩,
    .limit ⟨5, by decide, by decide⟩]⟩

def shuffled : ClauseSet :=
  ⟨[.limit ⟨5, by decide, by decide⟩, .filter "age > 3", .sort ⟨"age", .descending⟩,
    .filter "name"]⟩

theorem ranked_render_eq_shuffled :
    (Head.select (some ["id", "name"]) ⟨"users"⟩).Legible ∧ ranked.Legible ∧ shuffled.Legible ∧
    (render (.select (some ["id", "name"]) ⟨"users"⟩) ranked =
        render (.select (some ["id", "name"]) ⟨"users"⟩) shuffled ↔
      SameStatement (.select (some ["id", "name"]) ⟨"users"⟩) ranked
        (.select (some ["id", "name"]) ⟨"users"⟩) shuffled) := by
  have hhead : (Head.select (some ["id", "name"]) ⟨"users"⟩).Legible := by
    show PlainItems ["id", "name"] ∧ ["id", "name"] ≠ ["*"] ∧ Plain "users"
    decide +kernel
  have hranked : ranked.Legible := ⟨by decide +kernel, by decide +kernel⟩
  have hshuffled : shuffled.Legible := ⟨by decide +kernel, by decide +kernel⟩
  exact ⟨hhead, hranked, hshuffled,
    (render_eq_iff_sameStatement _ _ ranked shuffled).2 hhead hranked hhead hshuffled⟩

-- A list of the star alone is not legible: it reads like the absent list.
example : render (.select (some ["*"]) ⟨"t"⟩) .empty = render (.select none ⟨"t"⟩) .empty := by
  decide +kernel

end SqlStatement
