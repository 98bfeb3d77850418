import Tabular.Proofs.Query.Answer
import Tabular.Proofs.Table.Texts

/-!
# Results without commas

If no value holds a comma, the rows of a result are the answers to its query, all of them and
nothing else (`Query.Result`): none is left out for another with its joined form. So queries with
the same answers have the same result, whatever they look through for it
(`Decides.parallel_collect`).

`Query.Result` is `Decides` without what is needed to get there: no conditions and no candidates,
only the tables, the titles and the rows. Beside the answers it keeps two facts that queries of
stored results need, that each title of the result is found in the tables and that whatever is
looked at together has values under all of them.

`Database.exists_decides` leads from a query to its conditions and candidates in both cases, one
table and two, so that nothing after it distinguishes them.
-/

namespace Tabular

/-- The table is the result of a query of these tables, without commas in its values. -/
structure Query.Result (q : Query) (tables : List Table) (t : Table) : Prop where
  titles : t.titles = q.titles tables
  mem_rows_iff : ∀ row, row ∈ t.rows ↔ q.Makes tables row
  plain : ∀ row ∈ t.rows, row.Plain
  /-- Its titles are found in the tables. -/
  resolve : ∀ title ∈ t.titles, ∃ c, Column.resolve tables title = .ok c
  /-- Rows that are looked at together have values under its titles. -/
  made : ∀ sources, Together tables sources →
    ∃ row : Row, row.values.map some = t.titles.map (readFrom (tables.zip sources))

/-- A title of the only table is found. -/
theorem Column.exists_resolve_one {t : Table} {title : String} (h : title ∈ t.titles) :
    ∃ c, resolve [t] title = .ok c := by
  obtain ⟨k, hk⟩ :=
    Option.ne_none_iff_exists'.1 (mt Table.slot?_eq_none_iff.1 (not_not_intro h))
  refine ⟨⟨title, .left k⟩, resolve_eq_ok_iff.2 ⟨?_, rfl⟩⟩
  rw [binding?, hk]
  rfl

namespace Decides

variable {tables tables' : List Table} {q q' : Query} {conditions conditions' : List Condition}
    {candidates candidates' : List (List Row)}

/-- **What is collected without commas is the result.** -/
theorem result (hdecides : Decides tables q.comparisons conditions candidates)
    (hplain : ∀ sources ∈ candidates, ∀ r ∈ sources, r.Plain) {t : Table}
    (h : Table.collect (q.titles tables) tables conditions candidates = .ok t) :
    q.Result tables t := by
  obtain ⟨htitles, hsound, hcomplete⟩ := hdecides.collect h
  obtain ⟨-, -, columns, -, hcolumns, -⟩ := Table.collect_eq_ok_iff.1 h
  have hplaint : ∀ row ∈ t.rows, row.Plain := by
    intro row hrow v hv
    obtain ⟨sources, hsources, r, hr, hmem⟩ := Table.exists_mem_of_collect h hrow hv
    exact hplain sources hsources r hr v hmem
  refine ⟨htitles, fun row ↦ ⟨hsound row, fun hmakes ↦ ?_⟩, hplaint, fun title htitle ↦ ?_,
    fun sources htogether ↦ ?_⟩
  · obtain ⟨s, hs, hsame⟩ := hcomplete row hmakes
    obtain ⟨sources, htogether, -, hvalues⟩ := hmakes
    have hsources := hdecides.mem sources htogether
    have hproject := ((hdecides.fit sources hsources).project_eq_some_iff hcolumns).2 hvalues
    have hplainrow : row.Plain := by
      intro v hv
      obtain ⟨source, hsource, hmem⟩ := Row.exists_mem_of_project hproject hv
      exact hplain sources hsources source hsource v hmem
    have hwidth : row.width = t.width := by
      have hlength := congrArg List.length hvalues
      rwa [List.length_map, List.length_map, ← htitles] at hlength
    -- the row itself is kept, and not another with its joined form
    have heq := hsame.eq_of_width
      (hwidth.trans ((Table.wellFormed_of_collect h).width_eq s hs).symm) hplainrow (hplaint s hs)
    exact heq ▸ hs
  · obtain ⟨c, -, hc⟩ := exists_mem_of_forall₂ hcolumns (htitles ▸ htitle)
    exact ⟨c, hc⟩
  · have hfit := hdecides.fit sources (hdecides.mem sources htogether)
    obtain ⟨row, hrow⟩ := hfit.exists_project hcolumns
    exact ⟨row, htitles ▸ (hfit.project_eq_some_iff hcolumns).1 hrow⟩

/-- **Queries with the same answers collect the same**, or are refused for the same reason. -/
theorem parallel_collect (hdecides : Decides tables q.comparisons conditions candidates)
    (hdecides' : Decides tables' q'.comparisons conditions' candidates')
    (hplain : ∀ sources ∈ candidates, ∀ r ∈ sources, r.Plain)
    (hplain' : ∀ sources ∈ candidates', ∀ r ∈ sources, r.Plain)
    (htitles : q.titles tables = q'.titles tables')
    (hresolve : ∀ title ∈ q.titles tables, ∃ c, Column.resolve tables title = .ok c)
    (hresolve' : ∀ title ∈ q.titles tables, ∃ c, Column.resolve tables' title = .ok c)
    (hmakes : ∀ row, q.Makes tables row ↔ q'.Makes tables' row) :
    Parallel Table.SameAs (Table.collect (q.titles tables) tables conditions candidates)
      (Table.collect (q'.titles tables') tables' conditions' candidates') := by
  cases hnew : Table.new (q.titles tables) with
  | error e =>
    rw [← htitles, Table.collect, Table.collect, hnew]
    exact .error (Failure.error e)
  | ok _ =>
    obtain ⟨hne, hnodup, -⟩ := Table.new_eq_ok_iff.1 hnew
    obtain ⟨t, ht⟩ := hdecides.exists_collect hne hnodup hresolve
    rw [htitles] at hne hnodup hresolve'
    obtain ⟨t', ht'⟩ := hdecides'.exists_collect hne hnodup hresolve'
    rw [ht, ht']
    have hresult := hdecides.result hplain ht
    have hresult' := hdecides'.result hplain' ht'
    refine .ok ⟨?_, fun row ↦ ?_⟩
    · rw [hresult.titles, hresult'.titles, htitles]
    · rw [hresult.mem_rows_iff, hresult'.mem_rows_iff, hmakes]

end Decides

namespace Database

variable {db : Database}

/-- A query that succeeds is one of tables that are there, one or two, and all its comparisons are
found. -/
theorem exists_tables_of_select {passes : Passes} {q : Query} {t : Table}
    (h : db.select passes q = .ok t) :
    ∃ tables, q.tables.map db.table? = tables.map some ∧
      (tables.length = 1 ∨ tables.length = 2) ∧
      ∀ c ∈ q.comparisons, ∃ condition, c.resolve tables = .ok condition := by
  have hselected := selected db passes q
  rw [h] at hselected
  cases hselected with
  | @one A conditions _ hnames hfound =>
    refine ⟨[A], hnames, .inl rfl, fun c hc ↦ ?_⟩
    obtain ⟨condition, -, hcondition⟩ := exists_mem_of_forall₂ hfound hc
    exact ⟨condition, hcondition⟩
  | @two A B conditions _ hnames hfound =>
    refine ⟨[A, B], hnames, .inr rfl, fun c hc ↦ ?_⟩
    obtain ⟨condition, -, hcondition⟩ := exists_mem_of_forall₂ hfound hc
    exact ⟨condition, hcondition⟩

/-- **A query whose tables are there and whose comparisons are found collects its answers** from
rows of the tables. -/
theorem exists_decides {q : Query} {tables : List Table} (hwf : ∀ A ∈ tables, A.WellFormed)
    (hnames : q.tables.map db.table? = tables.map some)
    (hlength : tables.length = 1 ∨ tables.length = 2)
    (hresolve : ∀ c ∈ q.comparisons, ∃ condition, c.resolve tables = .ok condition)
    (passes : Passes) :
    ∃ conditions candidates,
      db.select passes q = Table.collect (q.titles tables) tables conditions candidates ∧
      Decides tables q.comparisons conditions candidates ∧
      ∀ sources ∈ candidates, ∀ r ∈ sources, ∃ A ∈ tables, r ∈ A.rows := by
  obtain ⟨conditions, hfound⟩ := exists_forall₂ hresolve
  have hconditions : q.comparisons.mapM (·.resolve tables) = .ok conditions :=
    mapM_eq_ok_iff.2 hfound
  obtain ⟨A, rfl⟩ | ⟨A, B, rfl⟩ : (∃ A, tables = [A]) ∨ ∃ A B, tables = [A, B] :=
    hlength.imp List.length_eq_one_iff.1 List.length_eq_two.1
  · have hA := hwf A (by simp)
    refine ⟨conditions, Table.singles passes.left A, ?_, decides_singles hA passes.left hfound, ?_⟩
    · rw [select_of_one hnames, hconditions]
      rfl
    · intro sources hsources r hr
      obtain ⟨r', hr', rfl⟩ := Table.mem_singles_iff.1 hsources
      rw [List.mem_singleton.1 hr]
      exact ⟨A, by simp, hr'⟩
  · have hA := hwf A (by simp)
    have hB := hwf B (by simp)
    refine ⟨Table.agreement A B ++ conditions, Table.pairs passes.left passes.right A B, ?_,
      decides_pairs hA hB passes.left passes.right hfound, ?_⟩
    · rw [select_of_two hnames, hconditions]
      rfl
    · intro sources hsources r hr
      obtain ⟨r', hr', s', hs', rfl⟩ := Table.mem_pairs_iff.1 hsources
      simp only [List.mem_cons, List.not_mem_nil, or_false] at hr
      rcases hr with rfl | rfl
      · exact ⟨A, by simp, hr'⟩
      · exact ⟨B, by simp, hs'⟩

/-- In a well-formed database all tables of a query are well-formed. -/
theorem WellFormed.exists_decides (hdb : db.WellFormed) {q : Query} {tables : List Table}
    (hnames : q.tables.map db.table? = tables.map some)
    (hlength : tables.length = 1 ∨ tables.length = 2)
    (hresolve : ∀ c ∈ q.comparisons, ∃ condition, c.resolve tables = .ok condition)
    (passes : Passes) :
    ∃ conditions candidates,
      db.select passes q = Table.collect (q.titles tables) tables conditions candidates ∧
      Decides tables q.comparisons conditions candidates ∧
      ∀ sources ∈ candidates, ∀ r ∈ sources, ∃ A ∈ tables, r ∈ A.rows :=
  Database.exists_decides (fun _ hA ↦ hdb.of_map_table? hnames (List.mem_map_of_mem hA)) hnames
    hlength hresolve passes

end Database

end Tabular
