import Mathlib.Data.List.Nodup
import Tabular.Proofs.Query.Result

/-!
# Joining all columns

A query for all columns of two tables, without comparisons, gives their natural join. What matters
of a row are the values that it shows under the titles, in whatever order these come
(`Table.Shows`), and a row of the join shows what a row of the one table and a row of the other show
together (`Database.StarJoin.shows_iff`). In these terms the grouping of three tables makes no
difference, and the titles come in the same order as well (`Database.starJoin_assoc`).

To compare rows of tables with different orders of columns, rows are taken as partial functions from
titles. A table shows such a function if one of its rows has these values; the join of two tables
shows what both show (`Database.StarJoin.shows_iff`), which is a conjunction, and conjunctions are
associative. Only then are rows told by their values again (`Table.eq_of_read`).

That commas stand only between values is needed for one step. A table keeps one of the rows with one
joined form, so otherwise a row of the inner join could be missing that the outer join would have
needed.
-/

namespace Tabular

/-! ### What rows show -/

namespace Table

/-- A row of the table shows these values under its titles. -/
def Shows (t : Table) (values : String → Option String) : Prop :=
  ∃ r ∈ t.rows, ∀ title ∈ t.titles, t.read r title = values title

variable {t t' : Table}

/-- A row that has these values in the order of the titles has them under the titles. -/
theorem read_of_map_some {r : Row} {values : String → Option String}
    (h : r.values.map some = t.titles.map values) {title : String} (htitle : title ∈ t.titles) :
    t.read r title = values title := by
  obtain ⟨k, hk⟩ := Option.ne_none_iff_exists'.1 (mt slot?_eq_none_iff.1 (not_not_intro htitle))
  obtain ⟨hlt, hget, -⟩ := List.idxOf?_eq_some_iff.1 hk
  have hlt' : k < r.values.length := by
    have hlength := congrArg List.length h
    rw [List.length_map, List.length_map] at hlength
    rwa [hlength]
  have hvalue : some r.values[k] = values title := by
    have hentry := congrArg (·[k]?) h
    simpa [List.getElem?_eq_getElem hlt, List.getElem?_eq_getElem hlt', hget] using hentry
  rw [read_eq, hk, ← hvalue]
  exact List.getElem?_eq_getElem hlt'

/-- The value under a title is that at its place. -/
theorem read_getElem (hnodup : t.titles.Nodup) (r : Row) {k : Nat} (hk : k < t.titles.length) :
    t.read r t.titles[k] = r.values[k]? := by
  have hslot : t.slot? t.titles[k] = some k := by
    refine List.idxOf?_eq_some_iff.2 ⟨hk, rfl, fun j hj heq ↦ ?_⟩
    have hindex : j = k := hnodup.getElem_inj_iff.1 heq
    omega
  rw [read_eq, hslot]
  rfl

/-- **A row is told by the values under the titles.** -/
theorem eq_of_read (hnodup : t.titles.Nodup) {r s : Row} (hr : r.width = t.width)
    (hs : s.width = t.width) (h : ∀ title ∈ t.titles, t.read r title = t.read s title) : r = s := by
  have hvalues : r.values = s.values := by
    refine List.ext_getElem? fun k ↦ ?_
    by_cases hk : k < t.titles.length
    · have hread := h t.titles[k] (List.getElem_mem hk)
      rwa [read_getElem hnodup r hk, read_getElem hnodup s hk] at hread
    · rw [List.getElem?_eq_none (hr.trans_le (Nat.le_of_not_lt hk)),
        List.getElem?_eq_none (hs.trans_le (Nat.le_of_not_lt hk))]
  exact congrArg Row.mk hvalues

/-- **Tables with the same titles that show the same have the same rows.** -/
theorem mem_rows_of_shows (ht : t.WellFormed) (ht' : t'.WellFormed) (htitles : t.titles = t'.titles)
    (h : ∀ values, t.Shows values → t'.Shows values) {r : Row} (hr : r ∈ t.rows) : r ∈ t'.rows := by
  obtain ⟨s, hs, hshows⟩ := h (t.read r) ⟨r, hr, fun _ _ ↦ rfl⟩
  have hwidth : t.width = t'.width := congrArg List.length htitles
  have hread : ∀ title ∈ t'.titles, t'.read r title = t'.read s title := by
    intro title htitle
    rw [hshows title htitle, read, read, htitles]
  rw [eq_of_read ht'.nodup_titles ((ht.width_eq r hr).trans hwidth) (ht'.width_eq s hs) hread]
  exact hs

/-! ### Titles of a join -/

/-- The titles of the join of two tables: those of the first, then those that only the second
has. -/
def starTitles (titles titles' : List String) : List String :=
  titles ++ titles'.filter (· ∉ titles)

theorem mem_starTitles_iff {titles titles' : List String} {title : String} :
    title ∈ starTitles titles titles' ↔ title ∈ titles ∨ title ∈ titles' := by
  simp only [starTitles, List.mem_append, List.mem_filter, decide_eq_true_eq]
  by_cases h : title ∈ titles <;> simp [h]

/-- **The titles come in one order**, however the tables are grouped. -/
theorem starTitles_assoc (as bs cs : List String) :
    starTitles (starTitles as bs) cs = starTitles as (starTitles bs cs) := by
  have hcs : cs.filter (· ∉ starTitles as bs) = (cs.filter (· ∉ bs)).filter (· ∉ as) := by
    rw [List.filter_filter]
    refine List.filter_congr fun title _ ↦ ?_
    simp [mem_starTitles_iff]
  rw [starTitles, hcs, starTitles, starTitles, starTitles, List.filter_append, List.append_assoc]

/-- No title of a join stands in it twice. -/
theorem nodup_starTitles {titles titles' : List String} (h : titles.Nodup) (h' : titles'.Nodup) :
    (starTitles titles titles').Nodup := by
  refine List.nodup_append.2 ⟨h, h'.filter _, ?_⟩
  rintro a ha b hb rfl
  exact of_decide_eq_true (List.mem_filter.1 hb).2 ha

/-! ### Rows of a join -/

/-- The row of `t` has, under the titles of both tables, the values of a row of each. -/
def Combines (left right t : Table) (p : Row × Row) (row : Row) : Prop :=
  (∀ title ∈ left.titles, t.read row title = left.read p.1 title) ∧
    ∀ title ∈ right.titles, t.read row title = right.read p.2 title

/-- **A row that is made of two rows that agree has the values of both.** -/
theorem combines_of_map_some {left right : Table}
    (htitles : t.titles = starTitles left.titles right.titles) {r s : Row}
    (hagree : ∀ title ∈ left.titles, title ∈ right.titles →
      left.read r title = right.read s title) {row : Row}
    (h : row.values.map some = t.titles.map (readFrom [(left, r), (right, s)])) :
    left.Combines right t (r, s) row := by
  have hread {title : String} (htitle : title ∈ left.titles ∨ title ∈ right.titles) :
      t.read row title = readFrom [(left, r), (right, s)] title :=
    read_of_map_some h (htitles ▸ mem_starTitles_iff.2 htitle)
  have hleft : ∀ title ∈ left.titles, t.read row title = left.read r title :=
    fun title htitle ↦ (hread (.inl htitle)).trans (if_pos htitle)
  refine ⟨hleft, fun title htitle ↦ ?_⟩
  by_cases hshared : title ∈ left.titles
  · exact (hleft title hshared).trans (hagree title hshared htitle)
  · rw [hread (.inr htitle), readFrom, if_neg hshared, readFrom, if_pos htitle]

end Table

/-! ### The join of two tables -/

namespace Database

/-- The table is what a query for all columns of two tables answers, without comparisons, in any
database and under any names of the two. -/
def StarJoin (passes : Passes) (left right t : Table) : Prop :=
  ∀ (db : Database) (l r : String), db.table? l = some left → db.table? r = some right →
    db.select passes ⟨.all, [l, r], []⟩ = .ok t

namespace StarJoin

variable {passes : Passes} {left right t : Table}

/-- The query collects pairs of rows that agree. -/
theorem iff_collect : StarJoin passes left right t ↔
    Table.collect (Table.starTitles left.titles right.titles) [left, right]
      (Table.agreement left right ++ []) (Table.pairs passes.left passes.right left right) =
        .ok t := by
  have hselect {db : Database} {l r : String} (hl : db.table? l = some left)
      (hr : db.table? r = some right) : db.select passes ⟨.all, [l, r], []⟩ =
        Table.collect (Table.starTitles left.titles right.titles) [left, right]
          (Table.agreement left right ++ [])
          (Table.pairs passes.left passes.right left right) := by
    have hnames : [l, r].map db.table? = [left, right].map some := by simp [hl, hr]
    rw [select_of_two hnames]
    rfl
  constructor
  · intro h
    let db : Database := ⟨"", [("l", left), ("r", right)]⟩
    have hl : db.table? "l" = some left := rfl
    have hr : db.table? "r" = some right := rfl
    rw [← hselect hl hr, h db "l" "r" hl hr]
  · intro h db l r hl hr
    rw [hselect hl hr, h]

/-- The conditions of agreement alone decide which pairs are joined. -/
theorem decides (hleft : left.WellFormed) (hright : right.WellFormed) (passes : Passes) :
    Decides [left, right] [] (Table.agreement left right ++ [])
      (Table.pairs passes.left passes.right left right) :=
  decides_pairs hleft hright passes.left passes.right .nil

/-- **Well-formed tables have a join.** -/
theorem exists_table (hleft : left.WellFormed) (hright : right.WellFormed) (passes : Passes) :
    ∃ t, StarJoin passes left right t := by
  have hne : Table.starTitles left.titles right.titles ≠ [] := by
    intro hnil
    exact hleft.titles_ne_nil (List.append_eq_nil_iff.1 hnil).1
  obtain ⟨t, ht⟩ := (decides hleft hright passes).exists_collect hne
    (Table.nodup_starTitles hleft.nodup_titles hright.nodup_titles)
    fun title htitle ↦ Column.exists_resolve (Table.mem_starTitles_iff.1 htitle)
  exact ⟨t, iff_collect.2 ht⟩

theorem wellFormed (h : StarJoin passes left right t) : t.WellFormed :=
  Table.wellFormed_of_collect (iff_collect.1 h)

theorem titles_eq (h : StarJoin passes left right t) :
    t.titles = Table.starTitles left.titles right.titles :=
  Table.titles_of_collect (iff_collect.1 h)

theorem plain_pairs (hleft : ∀ r ∈ left.rows, r.Plain) (hright : ∀ r ∈ right.rows, r.Plain) :
    ∀ sources ∈ Table.pairs passes.left passes.right left right, ∀ r ∈ sources, r.Plain := by
  intro sources hsources r hr
  obtain ⟨r', hr', s', hs', rfl⟩ := Table.mem_pairs_iff.1 hsources
  simp only [List.mem_cons, List.not_mem_nil, or_false] at hr
  rcases hr with rfl | rfl
  · exact hleft r hr'
  · exact hright r hs'

/-- A join of tables without commas has none. -/
theorem plain (h : StarJoin passes left right t) (hleft : ∀ r ∈ left.rows, r.Plain)
    (hright : ∀ r ∈ right.rows, r.Plain) : ∀ r ∈ t.rows, r.Plain := by
  intro row hrow v hv
  obtain ⟨sources, hsources, r, hr, hmem⟩ :=
    Table.exists_mem_of_collect (iff_collect.1 h) hrow hv
  exact plain_pairs hleft hright sources hsources r hr v hmem

/-- Two rows together have the values of each, if these are the same under shared titles. -/
theorem readFrom_eq {r s : Row} {values : String → Option String}
    (hr : ∀ title ∈ left.titles, left.read r title = values title)
    (hs : ∀ title ∈ right.titles, right.read s title = values title) {title : String}
    (htitle : title ∈ left.titles ∨ title ∈ right.titles) :
    readFrom [(left, r), (right, s)] title = values title := by
  rw [readFrom]
  split
  · next hmem => exact hr title hmem
  · next hmem =>
    have hmem' := htitle.resolve_left hmem
    rw [readFrom, if_pos hmem']
    exact hs title hmem'

/-- **A row of the join shows what a row of the one table and a row of the other show together**, if
commas stand only between values. -/
theorem shows_iff (h : StarJoin passes left right t) (hleft : left.WellFormed)
    (hright : right.WellFormed) (hplain : ∀ r ∈ left.rows, r.Plain)
    (hplain' : ∀ r ∈ right.rows, r.Plain) (values : String → Option String) :
    t.Shows values ↔ left.Shows values ∧ right.Shows values := by
  have hmem {title : String} :
      title ∈ t.titles ↔ title ∈ left.titles ∨ title ∈ right.titles := by
    rw [h.titles_eq, Table.mem_starTitles_iff]
  have hresult : Query.Result ⟨.all, [], []⟩ [left, right] t :=
    (decides hleft hright passes).result (plain_pairs hplain hplain') (iff_collect.1 h)
  constructor
  · rintro ⟨row, hrow, hshows⟩
    obtain ⟨sources, htogether, -, hvalues⟩ := (hresult.mem_rows_iff row).1 hrow
    rw [← hresult.titles] at hvalues
    cases htogether with
    | @two _ _ r s hr hs hagree =>
      obtain ⟨hreadleft, hreadright⟩ := Table.combines_of_map_some h.titles_eq hagree hvalues
      exact ⟨⟨r, hr, fun title htitle ↦
          (hreadleft title htitle).symm.trans (hshows title (hmem.2 (.inl htitle)))⟩,
        s, hs, fun title htitle ↦
          (hreadright title htitle).symm.trans (hshows title (hmem.2 (.inr htitle)))⟩
  · rintro ⟨⟨r, hr, hshowsleft⟩, s, hs, hshowsright⟩
    have htogether : Together [left, right] [r, s] :=
      .two hr hs fun title hl hr ↦ (hshowsleft title hl).trans (hshowsright title hr).symm
    obtain ⟨row, hvalues⟩ := hresult.made [r, s] htogether
    have hrow : row ∈ t.rows :=
      (hresult.mem_rows_iff row).2 ⟨[r, s], htogether, by simp, hresult.titles ▸ hvalues⟩
    refine ⟨row, hrow, fun title htitle ↦ ?_⟩
    rw [Table.read_of_map_some hvalues htitle]
    exact readFrom_eq hshowsleft hshowsright (hmem.1 htitle)

end StarJoin

/-- **Joining all columns is associative**, the order of columns included. Of three well-formed
tables without commas in their values, all joins succeed, and the first two joined with the third
have the same titles and the same rows as the first joined with the other two, whichever titles the
tables share. -/
theorem starJoin_assoc {A B C : Table} (hA : A.WellFormed) (hB : B.WellFormed) (hC : C.WellFormed)
    (hplainA : ∀ r ∈ A.rows, r.Plain) (hplainB : ∀ r ∈ B.rows, r.Plain)
    (hplainC : ∀ r ∈ C.rows, r.Plain) (passes₁ passes₂ passes₃ passes₄ : Passes) :
    ∃ AB AB_C BC A_BC, StarJoin passes₁ A B AB ∧ StarJoin passes₂ AB C AB_C ∧
      StarJoin passes₃ B C BC ∧ StarJoin passes₄ A BC A_BC ∧
      AB_C.titles = A_BC.titles ∧ ∀ r, r ∈ AB_C.rows ↔ r ∈ A_BC.rows := by
  obtain ⟨AB, hAB⟩ := StarJoin.exists_table hA hB passes₁
  obtain ⟨BC, hBC⟩ := StarJoin.exists_table hB hC passes₃
  obtain ⟨AB_C, hAB_C⟩ := StarJoin.exists_table hAB.wellFormed hC passes₂
  obtain ⟨A_BC, hA_BC⟩ := StarJoin.exists_table hA hBC.wellFormed passes₄
  have htitles : AB_C.titles = A_BC.titles := by
    rw [hAB_C.titles_eq, hAB.titles_eq, hA_BC.titles_eq, hBC.titles_eq, Table.starTitles_assoc]
  have hshows (values : String → Option String) : AB_C.Shows values ↔ A_BC.Shows values := by
    rw [hAB_C.shows_iff hAB.wellFormed hC (hAB.plain hplainA hplainB) hplainC,
      hAB.shows_iff hA hB hplainA hplainB,
      hA_BC.shows_iff hA hBC.wellFormed hplainA (hBC.plain hplainB hplainC),
      hBC.shows_iff hB hC hplainB hplainC, and_assoc]
  refine ⟨AB, AB_C, BC, A_BC, hAB, hAB_C, hBC, hA_BC, htitles, fun r ↦ ⟨?_, ?_⟩⟩
  · exact Table.mem_rows_of_shows hAB_C.wellFormed hA_BC.wellFormed htitles fun values ↦
      (hshows values).1
  · exact Table.mem_rows_of_shows hA_BC.wellFormed hAB_C.wellFormed htitles.symm fun values ↦
      (hshows values).2

/-- One title that all three tables have, and one more of each two. -/
theorem starJoin_assoc_shared :
    let A : Table := ⟨["k", "x", "y"], [⟨["1", "a", "b"]⟩, ⟨["2", "a", "b"]⟩]⟩
    let B : Table := ⟨["y", "k", "z"], [⟨["b", "1", "c"]⟩, ⟨["b", "2", "d"]⟩]⟩
    let C : Table := ⟨["z", "x", "k"], [⟨["c", "a", "1"]⟩, ⟨["c", "a", "2"]⟩]⟩
    ∃ AB AB_C BC A_BC, StarJoin .arrival A B AB ∧ StarJoin .arrival AB C AB_C ∧
      StarJoin .arrival B C BC ∧ StarJoin .arrival A BC A_BC ∧
      AB_C.titles = A_BC.titles ∧ ∀ r, r ∈ AB_C.rows ↔ r ∈ A_BC.rows := by
  intro A B C
  have hA : A.WellFormed := ⟨by decide, by decide, by decide, by decide⟩
  have hB : B.WellFormed := ⟨by decide, by decide, by decide, by decide⟩
  have hC : C.WellFormed := ⟨by decide, by decide, by decide, by decide⟩
  have hplainA : ∀ r ∈ A.rows, r.Plain := by unfold Row.Plain; decide
  have hplainB : ∀ r ∈ B.rows, r.Plain := by unfold Row.Plain; decide
  have hplainC : ∀ r ∈ C.rows, r.Plain := by unfold Row.Plain; decide
  exact starJoin_assoc hA hB hC hplainA hplainB hplainC .arrival .arrival .arrival .arrival

end Database

end Tabular
