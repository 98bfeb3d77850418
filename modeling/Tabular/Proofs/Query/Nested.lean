import Tabular.Proofs.Query.Star

/-!
# Queries of stored results

The result of a query can be stored as a table and be queried in turn. If no value holds a comma,
this is the same as one query of the sources with the comparisons of both
(`Database.select_stored`). A title stands for a place in the stored table there and for a place in
one of the sources here; but under a title of the result both have the same value, and that is all
that titles and comparisons ask for.

What a comparison says is settled by the values under a few titles (`Comparison.reads`), and a row
of the result has the values of its sources under each of its titles. So a comparison holds of the
row exactly if it holds of the sources, and answers to the one query are answers to the other
(`Query.Result.makes_iff`). That both queries fail alike is about titles only: a title of the result
is one of the sources.
-/

namespace Tabular

/-! ### What comparisons read -/

namespace Comparison

/-- The titles under which a comparison reads values. -/
def reads (c : Comparison) : List String :=
  match c.operand with
  | .column title => [c.column, title]
  | .literal _ => [c.column]

/-- What a comparison says depends on the values that it reads, and on nothing else. -/
theorem holds_congr {c : Comparison} {read read' : String → Option String}
    (h : ∀ title ∈ c.reads, read title = read' title) : c.Holds read ↔ c.Holds read' := by
  obtain ⟨column, relation, operand⟩ := c
  cases operand with
  | column title =>
    obtain ⟨hcolumn, htitle⟩ : read column = read' column ∧ read title = read' title := by
      simpa [reads] using h
    simp only [Holds, Operand.read, hcolumn, htitle]
  | literal value =>
    have hcolumn : read column = read' column := h column List.mem_cons_self
    simp only [Holds, Operand.read, hcolumn]

/-- A comparison is found if the titles are that it reads. -/
theorem exists_resolve {c : Comparison} {tables : List Table}
    (h : ∀ title ∈ c.reads, ∃ column, Column.resolve tables title = .ok column) :
    ∃ condition, c.resolve tables = .ok condition := by
  obtain ⟨title, relation, operand⟩ := c
  cases operand with
  | column title' =>
    obtain ⟨⟨column, hcolumn⟩, column', hcolumn'⟩ :
        (∃ column, Column.resolve tables title = .ok column) ∧
          ∃ column, Column.resolve tables title' = .ok column := by
      simpa [reads] using h
    have htarget : (Operand.column title').resolve tables = .ok (.column column') := by
      rw [Operand.resolve, hcolumn']
    exact ⟨_, bind_eq_ok_iff.2 ⟨column, hcolumn, bind_eq_ok_iff.2 ⟨_, htarget, rfl⟩⟩⟩
  | literal value =>
    obtain ⟨column, hcolumn⟩ := h title List.mem_cons_self
    exact ⟨_, bind_eq_ok_iff.2 ⟨column, hcolumn, bind_eq_ok_iff.2 ⟨_, rfl, rfl⟩⟩⟩

end Comparison

/-! ### Stored results -/

/-- **An answer to a query of a stored result is one to the query of its sources** with the
comparisons of both. -/
theorem Query.Result.makes_iff {q : Query} {tables : List Table} {t : Table}
    (hresult : q.Result tables t) {titles : List String} {comparisons : List Comparison}
    (htitles : ∀ title ∈ titles, title ∈ t.titles)
    (hcomparisons : ∀ c ∈ comparisons, ∀ title ∈ c.reads, title ∈ t.titles)
    (names names' : List String) (row : Row) :
    (⟨.columns titles, names, comparisons⟩ : Query).Makes [t] row ↔
      (⟨.columns titles, names', q.comparisons ++ comparisons⟩ : Query).Makes tables row := by
  -- under the titles of the result, a row has the values that it was made of
  have hread {sources : List Row} {r : Row}
      (hr : r.values.map some = t.titles.map (readFrom (tables.zip sources))) {title : String}
      (htitle : title ∈ t.titles) :
      readFrom [(t, r)] title = readFrom (tables.zip sources) title :=
    (if_pos htitle).trans (Table.read_of_map_some hr htitle)
  have hsame {sources : List Row} {r : Row}
      (hr : r.values.map some = t.titles.map (readFrom (tables.zip sources))) :
      titles.map (readFrom [(t, r)]) = titles.map (readFrom (tables.zip sources)) ∧
        ∀ c ∈ comparisons, c.Holds (readFrom [(t, r)]) ↔ c.Holds (readFrom (tables.zip sources)) :=
    ⟨List.map_congr_left fun title htitle ↦ hread hr (htitles title htitle), fun c hc ↦
      Comparison.holds_congr fun title htitle ↦ hread hr (hcomparisons c hc title htitle)⟩
  constructor
  · rintro ⟨_, hone, hholds, hvalues⟩
    cases hone with
    | @one _ r hr =>
      obtain ⟨sources, htogether, hholds', hr'⟩ := (hresult.mem_rows_iff r).1 hr
      rw [← hresult.titles] at hr'
      obtain ⟨hmap, hiff⟩ := hsame hr'
      refine ⟨sources, htogether, List.forall_mem_append.2 ⟨hholds', fun c hc ↦ ?_⟩, ?_⟩
      · exact (hiff c hc).1 (hholds c hc)
      · exact hvalues.trans hmap
  · rintro ⟨sources, htogether, hholds, hvalues⟩
    obtain ⟨hholds', hholds⟩ := List.forall_mem_append.1 hholds
    obtain ⟨r, hr⟩ := hresult.made sources htogether
    obtain ⟨hmap, hiff⟩ := hsame hr
    have hmem : r ∈ t.rows := (hresult.mem_rows_iff r).2
      ⟨sources, htogether, hholds', hresult.titles ▸ hr⟩
    refine ⟨[r], .one hmem, fun c hc ↦ ?_, ?_⟩
    · exact (hiff c hc).2 (hholds c hc)
    · exact hvalues.trans hmap.symm

namespace Database

variable {db : Database}

/-- No value in the database holds a comma. -/
def Plain (db : Database) : Prop :=
  ∀ name t, db.table? name = some t → ∀ r ∈ t.rows, r.Plain

theorem Plain.put (hplain : db.Plain) (name : String) {t : Table} (ht : ∀ r ∈ t.rows, r.Plain) :
    (db.put name t).Plain := by
  intro other t' ht'
  by_cases hother : other = name
  · rw [hother, table?_put] at ht'
    cases ht'
    exact ht
  · rw [table?_put_of_ne db hother] at ht'
    exact hplain other t' ht'

theorem Plain.of_mem (hplain : db.Plain) {names : List String} {tables : List Table}
    (hnames : names.map db.table? = tables.map some) {candidates : List (List Row)}
    (hfrom : ∀ sources ∈ candidates, ∀ r ∈ sources, ∃ A ∈ tables, r ∈ A.rows) :
    ∀ sources ∈ candidates, ∀ r ∈ sources, r.Plain := by
  intro sources hsources r hr
  obtain ⟨A, hA, hmem⟩ := hfrom sources hsources r hr
  obtain ⟨name, -, hname⟩ := List.mem_map.1 (hnames ▸ List.mem_map_of_mem hA)
  exact hplain name A hname r hmem

/-- **Querying a stored result is querying its sources.** If no value holds a comma, a query for
titles of the result and with comparisons of them is refused for the same reason as the query of
the sources with the comparisons of both, or gives the same titles and the same rows. -/
theorem select_stored (hdb : db.WellFormed) (hplain : db.Plain) {passes : Passes} {q : Query}
    {t : Table} (hq : db.select passes q = .ok t) {titles : List String}
    {comparisons : List Comparison} (htitles : ∀ title ∈ titles, title ∈ t.titles)
    (hcomparisons : ∀ c ∈ comparisons, ∀ title ∈ c.reads, title ∈ t.titles) (name : String)
    (passes' passes'' : Passes) :
    db.run passes (.create name (.query q)) = .done (.ok (.created name), db.put name t) ∧
      Parallel Table.SameAs
        ((db.put name t).select passes' ⟨.columns titles, [name], comparisons⟩)
        (db.select passes'' ⟨.columns titles, q.tables, q.comparisons ++ comparisons⟩) := by
  refine ⟨by simp only [run, make, hq], ?_⟩
  obtain ⟨tables, hnames, hlength, hresolve⟩ := exists_tables_of_select hq
  obtain ⟨_, candidates, hselect, hdecides, hfrom⟩ :=
    hdb.exists_decides hnames hlength hresolve passes
  have hresult := hdecides.result (hplain.of_mem hnames hfrom) (hselect.symm.trans hq)
  have hnames' : [name].map (db.put name t).table? = [t].map some := by simp
  -- the titles of the result are found both in the result and in the sources
  have hfound : ∀ title ∈ t.titles, (∃ c, Column.resolve [t] title = .ok c) ∧
      ∃ c, Column.resolve tables title = .ok c :=
    fun title htitle ↦ ⟨Column.exists_resolve_one htitle, hresult.resolve title htitle⟩
  have hresolve' : ∀ c ∈ comparisons, (∃ condition, c.resolve [t] = .ok condition) ∧
      ∃ condition, c.resolve tables = .ok condition := fun c hc ↦
    ⟨Comparison.exists_resolve fun title h ↦ (hfound title (hcomparisons c hc title h)).1,
      Comparison.exists_resolve fun title h ↦ (hfound title (hcomparisons c hc title h)).2⟩
  obtain ⟨_, _, hselect', hdecides', hfrom'⟩ :=
    (hdb.put name (wellFormed_of_select hq)).exists_decides
      (q := ⟨.columns titles, [name], comparisons⟩) hnames' (.inl rfl)
      (fun c hc ↦ (hresolve' c hc).1) passes'
  obtain ⟨_, _, hselect'', hdecides'', hfrom''⟩ := hdb.exists_decides
    (q := ⟨.columns titles, q.tables, q.comparisons ++ comparisons⟩) hnames hlength
    (List.forall_mem_append.2 ⟨hresolve, fun c hc ↦ (hresolve' c hc).2⟩) passes''
  rw [hselect', hselect'']
  exact hdecides'.parallel_collect hdecides''
    ((hplain.put name hresult.plain).of_mem hnames' hfrom') (hplain.of_mem hnames hfrom'') rfl
    (fun title htitle ↦ (hfound title (htitles title htitle)).1)
    (fun title htitle ↦ (hfound title (htitles title htitle)).2)
    (hresult.makes_iff htitles hcomparisons _ _)

/-- A title that both tables share, and a comparison of columns of both in the stored result. -/
theorem select_stored_joined :
    let A : Table := ⟨["x", "y"], [⟨["1", "b"]⟩, ⟨["2", "c"]⟩]⟩
    let B : Table := ⟨["y", "z"], [⟨["b", "u"]⟩, ⟨["b", "0"]⟩, ⟨["c", "v"]⟩]⟩
    let db : Database := ⟨"", [("a", A), ("b", B)]⟩
    let q : Query := ⟨.columns ["z", "x"], ["a", "b"], [⟨"y", .ne, .literal "c"⟩]⟩
    let more : List Comparison := [⟨"x", .lt, .column "z"⟩]
    ∃ t, db.select .arrival q = .ok t ∧
      db.run .arrival (.create "a" (.query q)) = .done (.ok (.created "a"), db.put "a" t) ∧
      Parallel Table.SameAs ((db.put "a" t).select .arrival ⟨.columns ["z"], ["a"], more⟩)
        (db.select .arrival ⟨.columns ["z"], ["a", "b"], q.comparisons ++ more⟩) := by
  intro A B db q more
  have hA : A.WellFormed := ⟨by decide, by decide, by decide, by decide⟩
  have hB : B.WellFormed := ⟨by decide, by decide, by decide, by decide⟩
  have htables : ∀ entry ∈ db.tables, entry.2 = A ∨ entry.2 = B := by decide
  have hdb : db.WellFormed := by
    intro entry hentry
    rcases htables entry hentry with h | h <;> rw [h] <;> assumption
  have hplain : db.Plain := by
    intro name t ht
    have hcommas : ∀ t ∈ [A, B], ∀ r ∈ t.rows, r.Plain := by unfold Row.Plain; decide
    exact hcommas t (by simpa using htables _ (Keyed.mem_of_get? ht))
  have hselect : db.select .arrival q = .ok ⟨["z", "x"], [⟨["u", "1"]⟩, ⟨["0", "1"]⟩]⟩ := by
    decide +kernel
  have htitles : ∀ title ∈ ["z"], title ∈ ["z", "x"] := by decide
  have hmore : ∀ c ∈ more, ∀ title ∈ c.reads, title ∈ ["z", "x"] := by decide
  exact ⟨_, hselect, select_stored hdb hplain hselect htitles hmore "a" .arrival .arrival⟩

end Database

end Tabular
