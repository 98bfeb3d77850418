import Tabular.Proofs.Query.Star
import Tabular.Proofs.Query.Swapped
import Tabular.Proofs.Table.Reordered

/-!
# Joining a table with itself

Every title of a table is shared in a join of the table with itself. So rows that are looked at
together have the same values under all titles, which makes them one row
(`Together.exists_of_self`), and titles are all found on the left. A query of the join comes to the
same as one of the table alone (`Database.select_self`), though it goes through pairs of rows.

A query for all columns of one table, without comparisons, gives back the table: no row is lost for
another with its joined form, since no two rows of a table have one (`Decides.exists_reordered`).

The code does not notice that both tables are one: it goes through all pairs of rows and tests one
condition for each title. Only rows that are equal pass, because the rows of a table are as wide as
its titles and so are told by their values (`Table.eq_of_read`). A table with two rows of one joined
form could not be well-formed, so nothing is asked about commas here.
-/

namespace Tabular

variable {t : Table}

/-! ### Titles -/

theorem Column.resolve_self (t : Table) : resolve [t, t] = resolve [t] := by
  have hbinding (title : String) : binding? title [t, t] = binding? title [t] := by
    rw [binding?, binding?]
    cases t.slot? title <;> rfl
  funext title
  rw [resolve, resolve, hbinding]

/-- The second table has no title that the first does not have. -/
theorem Query.titles_self (selection : Selection) (names names' : List String)
    (comparisons : List Comparison) (t : Table) :
    (⟨selection, names, comparisons⟩ : Query).titles [t, t] =
      (⟨selection, names', comparisons⟩ : Query).titles [t] := by
  cases selection with
  | columns titles => rfl
  | all => simp [titles, allTitles]

/-! ### Answers -/

/-- Titles that both tables have are read from the left one, so a row next to itself reads like the
row. -/
theorem readFrom_self (t : Table) (r : Row) : readFrom [(t, r), (t, r)] = readFrom [(t, r)] := by
  funext title
  by_cases h : title ∈ t.titles <;> simp [readFrom, h]

/-- **Rows of a table that agree on all its titles are one row.** -/
theorem Together.exists_of_self (ht : t.WellFormed) {sources : List Row}
    (h : Together [t, t] sources) : ∃ r ∈ t.rows, sources = [r, r] := by
  cases h with
  | @two _ _ r s hr hs hagree =>
    have heq : r = s := Table.eq_of_read ht.nodup_titles (ht.width_eq r hr) (ht.width_eq s hs)
      fun title htitle ↦ hagree title htitle htitle
    exact ⟨r, hr, by rw [heq]⟩

/-- A query has the same answers over a table and over the table twice. -/
theorem Query.makes_self (ht : t.WellFormed) (selection : Selection) (names names' : List String)
    (comparisons : List Comparison) (row : Row) :
    (⟨selection, names, comparisons⟩ : Query).Makes [t, t] row ↔
      (⟨selection, names', comparisons⟩ : Query).Makes [t] row := by
  rw [Makes, Makes, titles_self selection names names']
  constructor
  · rintro ⟨sources, htogether, hholds, hvalues⟩
    obtain ⟨r, hr, rfl⟩ := htogether.exists_of_self ht
    have hread : readFrom ([t, t].zip [r, r]) = readFrom ([t].zip [r]) := readFrom_self t r
    rw [hread] at hholds hvalues
    exact ⟨[r], .one hr, hholds, hvalues⟩
  · rintro ⟨sources, htogether, hholds, hvalues⟩
    cases htogether with
    | @one _ r hr =>
      have hread : readFrom ([t].zip [r]) = readFrom ([t, t].zip [r, r]) := (readFrom_self t r).symm
      rw [hread] at hholds hvalues
      exact ⟨[r, r], .two hr hr fun _ _ _ ↦ rfl, hholds, hvalues⟩

/-- The values of a row in the order of the titles. -/
theorem Table.map_read (hnodup : t.titles.Nodup) {r : Row} (hr : r.width = t.width) :
    t.titles.map (t.read r) = r.values.map some := by
  have hlength : r.values.length = t.titles.length := hr
  refine List.ext_getElem (by simp [hlength]) fun k hk hk' ↦ ?_
  rw [List.length_map] at hk hk'
  rw [List.getElem_map, List.getElem_map, Table.read_getElem hnodup r hk,
    List.getElem?_eq_getElem hk']

/-- **The answers to a query for all columns of a table are its rows**, if nothing is compared. -/
theorem Query.makes_all_iff (ht : t.WellFormed) (names : List String) (row : Row) :
    (⟨.all, names, []⟩ : Query).Makes [t] row ↔ row ∈ t.rows := by
  have hread (r : Row) : (allTitles [t]).map (readFrom ([t].zip [r])) = t.titles.map (t.read r) :=
    List.map_congr_left fun title htitle ↦ if_pos htitle
  constructor
  · rintro ⟨_, htogether, -, hvalues⟩
    cases htogether with
    | @one _ r hr =>
      have hvalues' : row.values.map some = r.values.map some :=
        hvalues.trans ((hread r).trans (Table.map_read ht.nodup_titles (ht.width_eq r hr)))
      have heq : row.values = r.values :=
        List.map_injective_iff.2 (fun _ _ ↦ Option.some.inj) hvalues'
      rwa [show row = r from congrArg Row.mk heq]
  · intro hrow
    refine ⟨[row], .one hrow, by simp, ?_⟩
    exact ((hread row).trans (Table.map_read ht.nodup_titles (ht.width_eq row hrow))).symm

/-! ### Results -/

/-- **A query whose answers are the rows of a table gives the table back**, in some order of the
rows. -/
theorem Decides.exists_reordered {tables : List Table} {q : Query} {conditions : List Condition}
    {candidates : List (List Row)}
    (hdecides : Decides tables q.comparisons conditions candidates) (ht : t.WellFormed)
    (htitles : q.titles tables = t.titles)
    (hresolve : ∀ title ∈ t.titles, ∃ c, Column.resolve tables title = .ok c)
    (hmakes : ∀ row, q.Makes tables row ↔ row ∈ t.rows) :
    ∃ t', Table.collect (q.titles tables) tables conditions candidates = .ok t' ∧
      t'.Reordered t := by
  rw [← htitles] at hresolve
  obtain ⟨t', ht'⟩ := hdecides.exists_collect (htitles ▸ ht.titles_ne_nil)
    (htitles ▸ ht.nodup_titles) hresolve
  obtain ⟨htitles', hsound, hcomplete⟩ := hdecides.collect ht'
  refine ⟨t', ht', htitles'.trans htitles, ?_⟩
  rw [List.perm_ext_iff_of_nodup (Table.wellFormed_of_collect ht').nodup_rows ht.nodup_rows]
  intro row
  refine ⟨fun hrow ↦ (hmakes row).1 (hsound row hrow), fun hrow ↦ ?_⟩
  obtain ⟨s, hs, hsame⟩ := hcomplete row ((hmakes row).2 hrow)
  -- both are rows of the table, which has no two with one joined form
  have heq : row = s := ht.eq_of_same hrow ((hmakes s).1 (hsound s hs)) hsame
  exact heq ▸ hs

namespace Database

variable {db : Database}

/-- **Joining a table with itself changes nothing.** A query of the join is refused with the error
of the query of the table alone, or both have the same titles and the same rows in joined form, and
no value is missed. For all columns, without comparisons, both give the table itself; so creating it
anew as its join with itself leaves it as it is, but for the order of its rows. -/
theorem select_self {name : String} (hname : db.table? name = some t) (ht : t.WellFormed)
    (passes passes' : Passes) :
    (∀ selection comparisons,
      Parallel Table.Alike (db.select passes ⟨selection, [name, name], comparisons⟩)
        (db.select passes' ⟨selection, [name], comparisons⟩) ∧
      db.select passes ⟨selection, [name, name], comparisons⟩ ≠ .error .outOfRange) ∧
    (∃ t', db.select passes ⟨.all, [name], []⟩ = .ok t' ∧ t'.Reordered t) ∧
    ∃ t', db.run passes (.create name (.query ⟨.all, [name, name], []⟩)) =
      .done (.ok (.created name), db.put name t') ∧ t'.Reordered t := by
  have hnames : [name].map db.table? = [t].map some := by simp [hname]
  have hnames' : [name, name].map db.table? = [t, t].map some := by simp [hname]
  have hone (passes : Passes) (selection : Selection) (comparisons : List Comparison) :
      db.select passes ⟨selection, [name], comparisons⟩ = _ := select_of_one hnames
  have htwo (selection : Selection) (comparisons : List Comparison) :
      db.select passes ⟨selection, [name, name], comparisons⟩ = _ := select_of_two hnames'
  refine ⟨fun selection comparisons ↦ ?_, ?_, ?_⟩
  · rw [htwo, hone, Comparison.resolve_congr (Column.resolve_self t)]
    cases hfound : comparisons.mapM (·.resolve [t]) with
    | error e => exact ⟨.error (Failure.error e), by rintro ⟨⟩⟩
    | ok conditions =>
      have hfound' : comparisons.mapM (·.resolve [t, t]) = .ok conditions := by
        rwa [Comparison.resolve_congr (Column.resolve_self t)]
      have hdecides : Decides [t, t] comparisons _ _ :=
        decides_pairs ht ht passes.left passes.right (mapM_eq_ok_iff.1 hfound')
      have hdecides' : Decides [t] comparisons _ _ :=
        decides_singles ht passes'.left (mapM_eq_ok_iff.1 hfound)
      refine ⟨hdecides.parallel_alike hdecides' (Query.titles_self ..) (fun title ↦ ?_)
        fun row ↦ Query.makes_self ht .., hdecides.collect_ne_outOfRange⟩
      rw [Column.resolve_self]
      exact .refl (fun _ ↦ trivial) _
  · rw [hone]
    exact (decides_singles ht passes.left .nil).exists_reordered (q := ⟨.all, [name], []⟩) ht rfl
      (fun title htitle ↦ Column.exists_resolve_one htitle) (Query.makes_all_iff ht _)
  · obtain ⟨t', hselect, hreordered⟩ :=
      (decides_pairs ht ht passes.left passes.right .nil).exists_reordered
        (q := ⟨.all, [name, name], []⟩) ht (Query.titles_self _ _ [name] _ t)
        (fun title htitle ↦ Column.exists_resolve (.inl htitle))
        fun row ↦ (Query.makes_self ht _ _ [name] _ row).trans (Query.makes_all_iff ht _ row)
    have hcreated : db.select passes ⟨.all, [name, name], []⟩ = .ok t' :=
      (htwo .all []).trans hselect
    exact ⟨t', by simp only [run, make, hcreated], hreordered⟩

/-- Values with commas: of both rows the two values that are asked for have one joined form. -/
theorem select_self_commas :
    let t : Table := ⟨["x", "y", "z"], [⟨["a,b", "c", "1"]⟩, ⟨["a", "b,c", "2"]⟩]⟩
    let db : Database := ⟨"", [("t", t)]⟩
    let q : List String → Query := fun names ↦
      ⟨.columns ["x", "y"], names, [⟨"z", .lt, .column "x"⟩]⟩
    t.WellFormed ∧
      (∃ both one, db.select .arrival (q ["t", "t"]) = .ok both ∧
        db.select .arrival (q ["t"]) = .ok one ∧ both.Alike one ∧ one.rows.length = 1) ∧
      ∃ t', db.run .arrival (.create "t" (.query ⟨.all, ["t", "t"], []⟩)) =
        .done (.ok (.created "t"), db.put "t" t') ∧ t'.Reordered t := by
  intro t db q
  have ht : t.WellFormed := ⟨by decide, by decide, by decide, by decide⟩
  have hname : db.table? "t" = some t := rfl
  obtain ⟨hqueries, -, hcreated⟩ := select_self hname ht .arrival .arrival
  obtain ⟨hparallel, -⟩ := hqueries (.columns ["x", "y"]) [⟨"z", .lt, .column "x"⟩]
  have hone : db.select .arrival (q ["t"]) = .ok ⟨["x", "y"], [⟨["a,b", "c"]⟩]⟩ := by
    decide +kernel
  obtain ⟨e, -, herror⟩ | ⟨both, one, hboth, hone', halike⟩ := hparallel.error_or_ok
  · exact absurd (hone.symm.trans herror) (by simp)
  · rw [← Except.ok.inj (hone.symm.trans hone')] at halike
    exact ⟨ht, ⟨both, _, hboth, hone, halike, rfl⟩, hcreated⟩

end Database

end Tabular
