import Tabular.Proofs.Database.Reached
import Tabular.Proofs.Query.Reading

/-!
# What queries mean

A query over one table or over two is a question about rows that are looked at together
(`Together`): which of them meet the comparisons, and what do they hold under the titles that are
asked for (`Query.Makes`)? The result is a table of exactly these answers, where of answers with one
joined form one is kept (`Database.answers_of_select`). In a well-formed database no query misses a
value (`Database.WellFormed.select_ne_outOfRange`).

The answers are told without the code: no place, no order of rows, no order of conditions. Between
the two stands `Decides`, which says of conditions and candidates what matters about them: on each
candidate the conditions can be tested, they hold just on those that the query is about, and none of
these is left out. It is shown once for one table and once for two (`decides_singles`,
`decides_pairs`), and everything else about queries starts from there.

`Sifts` is weaker and comes first. It leaves the conditions open, which may have been found in other
tables, and says only what the conditions of agreement do before them.

## From the meaning to the result

* `Table.collect` makes the rows, whatever conditions and candidates it is given, and
  `Decides.exists_collect` and `Decides.collect` say when it succeeds and what it makes of
  candidates that are decided.
* `Query.Makes` reads values by title, and `Fit.value_of_resolve` is what leads from there to
  columns.
* One table and two differ in the candidates and in the conditions of agreement and in nothing else.
  A query of any other number of tables is refused before there are candidates.
-/

namespace Tabular

/-- Rows that a query over these tables looks at together: any row of the only table, or any rows of
two tables that hold equal values under every title which both tables have. -/
inductive Together : List Table → List Row → Prop
  | one {t : Table} {r : Row} (hr : r ∈ t.rows) : Together [t] [r]
  | two {left right : Table} {r s : Row} (hr : r ∈ left.rows) (hs : s ∈ right.rows)
    (hagree : ∀ title ∈ left.titles, title ∈ right.titles →
      left.read r title = right.read s title) :
    Together [left, right] [r, s]

/-- All titles of the first table, then those of the second that the first does not have. -/
def allTitles : List Table → List String
  | [] => []
  | [t] => t.titles
  | left :: right :: _ => left.titles ++ right.titles.filter (· ∉ left.titles)

/-- The titles that a query asks for. -/
def Query.titles (q : Query) (tables : List Table) : List String :=
  match q.selection with
  | .columns titles => titles
  | .all => allTitles tables

theorem Query.titles_of_length {q : Query} {tables : List Table}
    (h : tables.length = 1 ∨ tables.length = 2) :
    q.selection.titles tables = q.titles tables := by
  match tables, h with
  | [t], _ | [left, right], _ =>
    rw [titles]
    cases q.selection <;> simp [Selection.titles, allTitles]

/-- The row is an answer to the query: it holds, value for value, what rows that meet the
comparisons hold under the titles. -/
def Query.Makes (q : Query) (tables : List Table) (row : Row) : Prop :=
  ∃ sources, Together tables sources ∧
    (∀ c ∈ q.comparisons, c.Holds (readFrom (tables.zip sources))) ∧
    row.values.map some = (q.titles tables).map (readFrom (tables.zip sources))

/-! ### Candidates -/

/-- Every order goes through all rows and no others. -/
theorem RowOrder.mem_list_iff (order : RowOrder) {rows : List Row} {r : Row} :
    r ∈ order.list rows ↔ r ∈ rows :=
  (order.perm rows).mem_iff

namespace Table

/-- The candidates of a query of one table are its rows, in whatever order they come. -/
theorem mem_singles_iff {order : RowOrder} {t : Table} {sources : List Row} :
    sources ∈ singles order t ↔ ∃ r ∈ t.rows, sources = [r] := by
  simp only [singles, List.mem_map, order.mem_list_iff, eq_comm]

/-- The candidates of a query of two tables are all pairs of their rows. -/
theorem mem_pairs_iff {leftOrder rightOrder : RowOrder} {left right : Table} {sources : List Row} :
    sources ∈ pairs leftOrder rightOrder left right ↔
      ∃ r ∈ left.rows, ∃ s ∈ right.rows, sources = [r, s] := by
  simp only [pairs, List.mem_flatMap, List.mem_map, RowOrder.mem_list_iff, eq_comm]

end Table

/-- Testing the conditions on the candidates finds those that a query with the comparisons is
about. -/
structure Decides (tables : List Table) (comparisons : List Comparison)
    (conditions : List Condition) (candidates : List (List Row)) : Prop where
  fit : ∀ sources ∈ candidates, Fit tables sources
  test : ∀ sources ∈ candidates, ∃ holds, Condition.testAll conditions sources = some holds ∧
    (holds = true ↔
      Together tables sources ∧ ∀ c ∈ comparisons, c.Holds (readFrom (tables.zip sources)))
  mem : ∀ sources, Together tables sources → sources ∈ candidates

/-- Testing `tested` on the candidates leaves those out that are not looked at together, and of the
others tests `conditions`. -/
structure Sifts (tables : List Table) (conditions tested : List Condition)
    (candidates : List (List Row)) : Prop where
  fit : ∀ sources ∈ candidates, Fit tables sources
  mem : ∀ sources, Together tables sources → sources ∈ candidates
  together : ∀ sources, Together tables sources →
    Condition.testAll tested sources = Condition.testAll conditions sources
  apart : ∀ sources ∈ candidates, ¬ Together tables sources →
    Condition.testAll tested sources = some false

/-- All rows of one table are looked at. -/
theorem sifts_singles {t : Table} (ht : t.WellFormed) (order : RowOrder)
    (conditions : List Condition) :
    Sifts [t] conditions conditions (Table.singles order t) where
  fit sources hsources := by
    obtain ⟨r, hr, rfl⟩ := Table.mem_singles_iff.1 hsources
    exact .one (ht.width_eq r hr)
  mem sources htogether := by
    cases htogether with
    | one hr => exact Table.mem_singles_iff.2 ⟨_, hr, rfl⟩
  together sources _ := rfl
  apart sources hsources hapart := by
    obtain ⟨r, hr, rfl⟩ := Table.mem_singles_iff.1 hsources
    exact absurd (.one hr) hapart

/-- All pairs of rows are gone through, and those that agree are looked at. -/
theorem sifts_pairs {left right : Table} (hleft : left.WellFormed) (hright : right.WellFormed)
    (leftOrder rightOrder : RowOrder) (conditions : List Condition) :
    Sifts [left, right] conditions (Table.agreement left right ++ conditions)
      (Table.pairs leftOrder rightOrder left right) := by
  -- the conditions of agreement come first, and they can be tested on all pairs
  have htest {r s : Row} (hr : r ∈ left.rows) (hs : s ∈ right.rows) :
      ∃ holds, Condition.testAll (Table.agreement left right) [r, s] = some holds ∧
        (holds = true ↔ Together [left, right] [r, s]) := by
    obtain ⟨hagree, hiff⟩ := test_agreement_iff (hleft.width_eq r hr) (hright.width_eq s hs)
    obtain ⟨holds, hholds, hall⟩ := Condition.exists_testAll hagree
    refine ⟨holds, hholds, ?_⟩
    rw [hall, hiff]
    refine ⟨.two hr hs, fun htogether ↦ ?_⟩
    cases htogether with
    | two _ _ hagree => exact hagree
  refine ⟨fun sources hsources ↦ ?_, fun sources htogether ↦ ?_, fun sources htogether ↦ ?_,
    fun sources hsources hapart ↦ ?_⟩
  · obtain ⟨r, hr, s, hs, rfl⟩ := Table.mem_pairs_iff.1 hsources
    exact .two (hleft.width_eq r hr) (hright.width_eq s hs)
  · cases htogether with
    | two hr hs => exact Table.mem_pairs_iff.2 ⟨_, hr, _, hs, rfl⟩
  · cases htogether with
    | two hr hs hagree =>
      obtain ⟨holds, hholds, hiff⟩ := htest hr hs
      rw [Condition.testAll_append, hholds, hiff.2 (.two hr hs hagree)]
      rfl
  · obtain ⟨r, hr, s, hs, rfl⟩ := Table.mem_pairs_iff.1 hsources
    obtain ⟨holds, hholds, hiff⟩ := htest hr hs
    rw [Condition.testAll_append, hholds, Bool.eq_false_iff.2 (mt hiff.1 hapart)]
    rfl

/-- With conditions that were found in the tables, the comparisons are decided. -/
theorem Sifts.decides {tables : List Table} {comparisons : List Comparison}
    {conditions tested : List Condition} {candidates : List (List Row)}
    (hsifts : Sifts tables conditions tested candidates)
    (h : Found tables comparisons conditions) : Decides tables comparisons tested candidates where
  fit := hsifts.fit
  test sources hsources := by
    by_cases htogether : Together tables sources
    · obtain ⟨htest, hiff⟩ := (hsifts.fit sources hsources).forall_test_iff h
      obtain ⟨holds, hholds, hall⟩ := Condition.exists_testAll htest
      refine ⟨holds, (hsifts.together sources htogether).trans hholds, ?_⟩
      rw [hall, hiff, and_iff_right htogether]
    · exact ⟨false, hsifts.apart sources hsources htogether, by simp [htogether]⟩
  mem := hsifts.mem

/-- Of all rows of one table, those for which the comparisons hold are found. -/
theorem decides_singles {t : Table} (ht : t.WellFormed) (order : RowOrder)
    {comparisons : List Comparison} {conditions : List Condition}
    (h : Found [t] comparisons conditions) :
    Decides [t] comparisons conditions (Table.singles order t) :=
  (sifts_singles ht order conditions).decides h

/-- Of all pairs of rows, those that agree and for which the comparisons hold are found. -/
theorem decides_pairs {left right : Table} (hleft : left.WellFormed) (hright : right.WellFormed)
    (leftOrder rightOrder : RowOrder) {comparisons : List Comparison} {conditions : List Condition}
    (h : Found [left, right] comparisons conditions) :
    Decides [left, right] comparisons (Table.agreement left right ++ conditions)
      (Table.pairs leftOrder rightOrder left right) :=
  (sifts_pairs hleft hright leftOrder rightOrder conditions).decides h

/-! ### Collecting -/

/-- **What is collected is read off the candidates that meet the conditions**, and of rows with one
joined form one is kept. -/
theorem Table.rows_of_collect {titles : List String} {tables : List Table}
    {conditions : List Condition} {candidates : List (List Row)} {t : Table}
    (hfit : ∀ sources ∈ candidates, Fit tables sources)
    (h : collect titles tables conditions candidates = .ok t) :
    (∀ row ∈ t.rows, ∃ sources ∈ candidates, Condition.testAll conditions sources = some true ∧
      row.values.map some = titles.map (readFrom (tables.zip sources))) ∧
    ∀ sources ∈ candidates, Condition.testAll conditions sources = some true → ∀ row : Row,
      row.values.map some = titles.map (readFrom (tables.zip sources)) →
      ∃ s ∈ t.rows, row.Same s := by
  obtain ⟨-, -, columns, rows, hcolumns, hrows, hadd⟩ := collect_eq_ok_iff.1 h
  obtain ⟨-, hfrom, -, hall⟩ := addAll_eq_ok hadd
  constructor
  · intro row hrow
    rcases hfrom row hrow with hrow | hrow
    · cases hrow
    obtain ⟨sources, hsources, htest, hproject⟩ := (mem_of_gather hrows row).1 hrow
    exact ⟨sources, hsources, htest,
      ((hfit sources hsources).project_eq_some_iff hcolumns).1 hproject⟩
  · intro sources hsources htest row hvalues
    have hproject := ((hfit sources hsources).project_eq_some_iff hcolumns).2 hvalues
    exact hall row ((mem_of_gather hrows row).2 ⟨sources, hsources, htest, hproject⟩)

/-- **What was gathered makes a table**: all rows are as wide as there are titles. -/
theorem Table.exists_collect_of_gather {titles : List String} {tables : List Table}
    {conditions : List Condition} {candidates : List (List Row)} {columns : List Column}
    {rows : List Row} (hne : titles ≠ []) (hnodup : titles.Nodup)
    (hcolumns : List.Forall₂ (fun title c ↦ Column.resolve tables title = .ok c) titles columns)
    (hrows : gather columns conditions candidates = some rows) :
    ∃ t, collect titles tables conditions candidates = .ok t := by
  obtain ⟨t, ht⟩ : ∃ t, (⟨titles, []⟩ : Table).addAll rows = .ok t := by
    refine exists_addAll_iff.2 fun r hr ↦ ?_
    obtain ⟨sources, -, -, hproject⟩ := (mem_of_gather hrows r).1 hr
    exact (hcolumns.length_eq.trans (Row.project_eq_some_iff.1 hproject).length_eq).symm
  exact ⟨t, collect_eq_ok_iff.2 ⟨hne, hnodup, columns, rows, hcolumns, hrows, ht⟩⟩

namespace Decides

variable {tables : List Table} {q : Query} {conditions : List Condition}
    {candidates : List (List Row)}

/-- **What is collected are the answers**, of answers with one joined form one of them. -/
theorem collect (hdecides : Decides tables q.comparisons conditions candidates) {t : Table}
    (h : Table.collect (q.titles tables) tables conditions candidates = .ok t) :
    t.titles = q.titles tables ∧ (∀ row ∈ t.rows, q.Makes tables row) ∧
      ∀ row, q.Makes tables row → ∃ s ∈ t.rows, row.Same s := by
  obtain ⟨hsound, hcomplete⟩ := Table.rows_of_collect hdecides.fit h
  refine ⟨Table.titles_of_collect h, fun row hrow ↦ ?_, ?_⟩
  · obtain ⟨sources, hsources, htest, hvalues⟩ := hsound row hrow
    obtain ⟨holds, hholds, hiff⟩ := hdecides.test sources hsources
    rw [hholds, Option.some.injEq] at htest
    obtain ⟨htogether, hcomparisons⟩ := hiff.1 htest
    exact ⟨sources, htogether, hcomparisons, hvalues⟩
  · rintro row ⟨sources, htogether, hcomparisons, hvalues⟩
    have hsources := hdecides.mem sources htogether
    obtain ⟨holds, hholds, hiff⟩ := hdecides.test sources hsources
    rw [hiff.2 ⟨htogether, hcomparisons⟩] at hholds
    exact hcomplete sources hsources hholds row hvalues

/-- Gathering what is found misses no value. -/
theorem exists_gather {comparisons : List Comparison} {titles : List String}
    {columns : List Column} (hdecides : Decides tables comparisons conditions candidates)
    (hcolumns : List.Forall₂ (fun title c ↦ Column.resolve tables title = .ok c) titles columns) :
    ∃ rows, gather columns conditions candidates = some rows := by
  refine Tabular.exists_gather fun sources hsources ↦ ?_
  obtain ⟨holds, hholds, -⟩ := hdecides.test sources hsources
  exact ⟨⟨holds, hholds⟩, (hdecides.fit sources hsources).exists_project hcolumns⟩

/-- **Collecting succeeds** if there are titles, no two of them the same, and all are found. -/
theorem exists_collect {comparisons : List Comparison} {titles : List String}
    (hdecides : Decides tables comparisons conditions candidates) (hne : titles ≠ [])
    (hnodup : titles.Nodup)
    (hresolve : ∀ title ∈ titles, ∃ c, Column.resolve tables title = .ok c) :
    ∃ t, Table.collect titles tables conditions candidates = .ok t := by
  obtain ⟨columns, hcolumns⟩ := exists_forall₂ hresolve
  obtain ⟨rows, hrows⟩ := hdecides.exists_gather hcolumns
  exact Table.exists_collect_of_gather hne hnodup hcolumns hrows

/-- Collecting misses no value. -/
theorem collect_ne_outOfRange {comparisons : List Comparison} {titles : List String}
    (hdecides : Decides tables comparisons conditions candidates) :
    Table.collect titles tables conditions candidates ≠ .error .outOfRange := by
  intro h
  obtain ⟨e, he⟩ := Table.exists_error_of_collect h fun _ hcolumns ↦ hdecides.exists_gather hcolumns
  cases he

end Decides

namespace Database

variable {db : Database} {passes : Passes} {q : Query}

theorem select_of_one {A : Table} (hnames : q.tables.map db.table? = [A].map some) :
    db.select passes q = Failure.ofExcept (q.comparisons.mapM (·.resolve [A])) >>= fun conditions ↦
      A.select (q.titles [A]) conditions passes.left := by
  rw [select, mapM_table_eq_ok_iff.2 hnames, ← Query.titles_of_length (.inl rfl)]
  rfl

theorem select_of_two {A B : Table} (hnames : q.tables.map db.table? = [A, B].map some) :
    db.select passes q =
      Failure.ofExcept (q.comparisons.mapM (·.resolve [A, B])) >>= fun conditions ↦
        A.join B (q.titles [A, B]) conditions passes.left passes.right := by
  rw [select, mapM_table_eq_ok_iff.2 hnames, ← Query.titles_of_length (.inr rfl)]
  rfl

theorem WellFormed.of_map_table? (hdb : db.WellFormed) {names : List String}
    {tables : List (Option Table)}
    (h : names.map db.table? = tables) {t : Table} (ht : some t ∈ tables) : t.WellFormed := by
  rw [← h] at ht
  obtain ⟨name, -, hname⟩ := List.mem_map.1 ht
  exact hdb.of_table? hname

/-- **The result of a query over well-formed tables** has the titles that are asked for; its rows
are answers, every answer is among them in joined form, and no two have one joined form. -/
theorem answers_of_select {t : Table} (hdb : db.WellFormed) (h : db.select passes q = .ok t) :
    ∃ tables, q.tables.map db.table? = tables.map some ∧ (tables.length = 1 ∨ tables.length = 2) ∧
      t.titles = q.titles tables ∧
      (∀ j, (∃ row ∈ t.rows, row.joined = j) ↔ ∃ row, q.Makes tables row ∧ row.joined = j) ∧
      (∀ row ∈ t.rows, q.Makes tables row) ∧
      t.rows.Pairwise fun r s ↦ r.joined ≠ s.joined := by
  -- it is enough that every row is an answer, and that every answer is the same as some row
  suffices ∃ tables, q.tables.map db.table? = tables.map some ∧
      (tables.length = 1 ∨ tables.length = 2) ∧
      t.titles = q.titles tables ∧ (∀ row ∈ t.rows, q.Makes tables row) ∧
      ∀ row, q.Makes tables row → ∃ s ∈ t.rows, row.Same s by
    obtain ⟨tables, hnames, hlength, htitles, hsound, hcomplete⟩ := this
    refine ⟨tables, hnames, hlength, htitles, fun j ↦ ⟨?_, ?_⟩, hsound,
      (wellFormed_of_select h).pairwise_not_same⟩
    · rintro ⟨row, hrow, rfl⟩
      exact ⟨row, hsound row hrow, rfl⟩
    · rintro ⟨row, hrow, rfl⟩
      obtain ⟨s, hs, hsame⟩ := hcomplete row hrow
      exact ⟨s, hs, hsame.symm⟩
  have hselected := selected db passes q
  rw [h] at hselected
  cases hselected with
  | @one A conditions _ hnames hfound h =>
    have hA : A.WellFormed := hdb.of_map_table? hnames (by simp)
    rw [Query.titles_of_length (.inl rfl)] at h
    exact ⟨[A], hnames, .inl rfl, (decides_singles hA passes.left hfound).collect h⟩
  | @two A B conditions _ hnames hfound h =>
    have hA : A.WellFormed := hdb.of_map_table? hnames (by simp)
    have hB : B.WellFormed := hdb.of_map_table? hnames (by simp)
    rw [Query.titles_of_length (.inr rfl)] at h
    exact ⟨[A, B], hnames, .inr rfl,
      (decides_pairs hA hB passes.left passes.right hfound).collect h⟩

/-- Two tables that share a title, and a comparison of a column of the second. -/
theorem answers_of_select_joined :
    let A : Table := ⟨["x", "y"], [⟨["1", "b"]⟩, ⟨["2", "c"]⟩]⟩
    let B : Table := ⟨["y", "z"], [⟨["b", "u"]⟩, ⟨["b", "v"]⟩]⟩
    let q : Query := ⟨.all, ["a", "b"], [⟨"z", .gt, .literal "u"⟩]⟩
    ∃ t, Database.select ⟨"", [("a", A), ("b", B)]⟩ .arrival q = .ok t ∧
      t.titles = ["x", "y", "z"] ∧
      ∀ j, (∃ row ∈ t.rows, row.joined = j) ↔ ∃ row, q.Makes [A, B] row ∧ row.joined = j := by
  intro A B q
  have hA : A.WellFormed := ⟨by decide, by decide, by decide, by decide⟩
  have hB : B.WellFormed := ⟨by decide, by decide, by decide, by decide⟩
  have hdb : Database.WellFormed ⟨"", [("a", A), ("b", B)]⟩ := by
    intro entry hentry
    rcases List.mem_cons.1 hentry with rfl | hentry
    · exact hA
    · rw [List.mem_singleton.1 hentry]
      exact hB
  have hselect : Database.select ⟨"", [("a", A), ("b", B)]⟩ .arrival q =
      .ok ⟨["x", "y", "z"], [⟨["1", "b", "v"]⟩]⟩ := by decide +kernel
  obtain ⟨tables, hnames, -, htitles, hrows, -⟩ := answers_of_select hdb hselect
  obtain rfl : tables = [A, B] := List.map_injective_iff.2 (fun _ _ ↦ Option.some.inj) hnames.symm
  exact ⟨_, hselect, htitles, hrows⟩

/-- **Over well-formed tables no query misses a value.** -/
theorem WellFormed.select_ne_outOfRange (hdb : db.WellFormed) :
    db.select passes q ≠ .error .outOfRange := by
  intro h
  have hselected := selected db passes q
  rw [h] at hselected
  cases hselected with
  | @one A conditions _ hnames hfound h =>
    have hA : A.WellFormed := hdb.of_map_table? hnames (by simp)
    exact (decides_singles hA passes.left hfound).collect_ne_outOfRange h
  | @two A B conditions _ hnames hfound h =>
    have hA : A.WellFormed := hdb.of_map_table? hnames (by simp)
    have hB : B.WellFormed := hdb.of_map_table? hnames (by simp)
    exact (decides_pairs hA hB passes.left passes.right hfound).collect_ne_outOfRange h

end Database

end Tabular
