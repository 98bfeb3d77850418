import Mathlib.Combinatorics.Enumerative.DoubleCounting
import Mathlib.Data.List.ProdSigma
import Tabular.Proofs.Query.Faults
import Tabular.Proofs.Table.Reordered

/-!
# Nothing is lost in a join of all columns

A query for all columns of two tables has one row for each pair of rows that agree and for which the
comparisons hold (`Table.qualifying`). The result is put together row by row, and of equal rows one
would be left out; but a row of the result has all values of the two rows that it comes from
(`Table.Combines`), so it is told by the result which they were, and no two pairs make one row
(`Database.select_all_lossless`). That commas stand only between values is needed for this, since
the rows of a table are told apart by their joined forms.

Counting is done by relating. If each pair that qualifies is related to exactly one row of the
result and each row to exactly one pair, there are equally many (`length_eq_of_existsUnique`), and
neither list has to be gone through in any order. The relation is that the row has the values of
both (`Table.Combines`); rows are found for pairs because every answer is in the result, and pairs
for rows because every row is an answer.

## Why a row tells its pair

All columns of both tables are in the result, shared ones once. The left row stands in it as it is;
of the right row the columns that are not shared stand in it, and the shared ones are known from the
left row, because the pair agrees on them. Within their tables the rows are then told by their
values, and no table holds two rows with the same.
-/

namespace Tabular

/-- Lists without repetitions are equally long if each in one is related to exactly one in the
other. -/
theorem length_eq_of_existsUnique {α β : Type} [DecidableEq α] [DecidableEq β] {R : α → β → Prop}
    {as : List α} {bs : List β} (has : as.Nodup) (hbs : bs.Nodup)
    (h : ∀ a ∈ as, ∃! b, b ∈ bs ∧ R a b) (h' : ∀ b ∈ bs, ∃! a, a ∈ as ∧ R a b) :
    as.length = bs.length := by
  rw [← List.toFinset_card_of_nodup has, ← List.toFinset_card_of_nodup hbs]
  refine le_antisymm (Finset.card_le_card_of_forall_subsingleton R ?_ ?_)
    (Finset.card_le_card_of_forall_subsingleton' R ?_ ?_)
  · intro a ha
    obtain ⟨b, hb, -⟩ := h a (List.mem_toFinset.1 ha)
    exact ⟨b, List.mem_toFinset.2 hb.1, hb.2⟩
  · intro b hb a ha a' ha'
    refine (h' b (List.mem_toFinset.1 hb)).unique ?_ ?_
    · exact ⟨List.mem_toFinset.1 ha.1, ha.2⟩
    · exact ⟨List.mem_toFinset.1 ha'.1, ha'.2⟩
  · intro b hb
    obtain ⟨a, ha, -⟩ := h' b (List.mem_toFinset.1 hb)
    exact ⟨a, List.mem_toFinset.2 ha.1, ha.2⟩
  · intro a ha b hb b' hb'
    refine (h a (List.mem_toFinset.1 ha)).unique ?_ ?_
    · exact ⟨List.mem_toFinset.1 hb.1, hb.2⟩
    · exact ⟨List.mem_toFinset.1 hb'.1, hb'.2⟩

namespace Table

/-- The pairs of rows that have equal values under shared titles and for which the comparisons
hold. -/
def qualifying (left right : Table) (comparisons : List Comparison) : List (Row × Row) :=
  (left.rows ×ˢ right.rows).filter fun p ↦
    (∀ title ∈ left.titles, title ∈ right.titles → left.read p.1 title = right.read p.2 title) ∧
      ∀ c ∈ comparisons, c.Holds (readFrom [(left, p.1), (right, p.2)])

variable {left right t : Table} {comparisons : List Comparison}

/-- A pair qualifies if its rows are looked at together and meet the comparisons. -/
theorem mem_qualifying_iff {r s : Row} : (r, s) ∈ qualifying left right comparisons ↔
    Together [left, right] [r, s] ∧
      ∀ c ∈ comparisons, c.Holds (readFrom [(left, r), (right, s)]) := by
  rw [qualifying, List.mem_filter, List.mem_product, decide_eq_true_iff]
  constructor
  · rintro ⟨⟨hr, hs⟩, hagree, hholds⟩
    exact ⟨.two hr hs hagree, hholds⟩
  · rintro ⟨htogether, hholds⟩
    cases htogether with
    | two hr hs hagree => exact ⟨⟨hr, hs⟩, hagree, hholds⟩

/-- No pair qualifies twice, since no row stands in a table twice. -/
theorem nodup_qualifying (hleft : left.WellFormed) (hright : right.WellFormed) :
    (qualifying left right comparisons).Nodup :=
  (hleft.nodup_rows.product hright.nodup_rows).filter _

/-- Without shared titles and comparisons all pairs qualify. -/
theorem length_qualifying_nil (hshared : ∀ title ∈ left.titles, title ∉ right.titles) :
    (qualifying left right []).length = left.rows.length * right.rows.length := by
  have hall : qualifying left right [] = left.rows ×ˢ right.rows := by
    refine List.filter_eq_self.2 fun p _ ↦ decide_eq_true ⟨fun title hl hr ↦ ?_, by simp⟩
    exact absurd hr (hshared title hl)
  rw [hall, List.length_product]

/-- **A row of a join tells which two rows it combines.** -/
theorem Combines.unique (hleft : left.WellFormed) (hright : right.WellFormed) {p p' : Row × Row}
    (hp : p ∈ qualifying left right comparisons) (hp' : p' ∈ qualifying left right comparisons)
    {row : Row} (h : left.Combines right t p row) (h' : left.Combines right t p' row) :
    p = p' := by
  obtain ⟨hr, hs⟩ := List.mem_product.1 (List.mem_filter.1 hp).1
  obtain ⟨hr', hs'⟩ := List.mem_product.1 (List.mem_filter.1 hp').1
  refine Prod.ext ?_ ?_
  · exact eq_of_read hleft.nodup_titles (hleft.width_eq _ hr) (hleft.width_eq _ hr')
      fun title htitle ↦ (h.1 title htitle).symm.trans (h'.1 title htitle)
  · exact eq_of_read hright.nodup_titles (hright.width_eq _ hs) (hright.width_eq _ hs')
      fun title htitle ↦ (h.2 title htitle).symm.trans (h'.2 title htitle)

theorem Combines.row_unique (ht : t.WellFormed)
    (htitles : t.titles = starTitles left.titles right.titles) {row row' : Row}
    (hrow : row ∈ t.rows) (hrow' : row' ∈ t.rows) {p : Row × Row}
    (h : left.Combines right t p row) (h' : left.Combines right t p row') : row = row' := by
  refine eq_of_read ht.nodup_titles (ht.width_eq row hrow) (ht.width_eq row' hrow')
    fun title htitle ↦ ?_
  rcases mem_starTitles_iff.1 (htitles ▸ htitle) with hl | hr
  · exact (h.1 title hl).trans (h'.1 title hl).symm
  · exact (h.2 title hr).trans (h'.2 title hr).symm

end Table

namespace Query.Result

variable {left right t : Table} {names : List String} {comparisons : List Comparison}

/-- Each pair that qualifies has one row in the result. -/
theorem existsUnique_combines (h : (⟨.all, names, comparisons⟩ : Query).Result [left, right] t)
    (ht : t.WellFormed) {p : Row × Row} (hp : p ∈ left.qualifying right comparisons) :
    ∃! row, row ∈ t.rows ∧ left.Combines right t p row := by
  obtain ⟨r, s⟩ := p
  obtain ⟨htogether, hholds⟩ := Table.mem_qualifying_iff.1 hp
  obtain ⟨row, hvalues⟩ := h.made _ htogether
  have hrow : row ∈ t.rows :=
    (h.mem_rows_iff row).2 ⟨_, htogether, hholds, h.titles ▸ hvalues⟩
  have hcombines : left.Combines right t (r, s) row := by
    cases htogether with
    | two _ _ hagree => exact Table.combines_of_map_some h.titles hagree hvalues
  exact ⟨row, ⟨hrow, hcombines⟩, fun row' h' ↦
    h'.2.row_unique ht h.titles h'.1 hrow hcombines⟩

/-- Each row of the result is that of one pair that qualifies. -/
theorem existsUnique_qualifying (h : (⟨.all, names, comparisons⟩ : Query).Result [left, right] t)
    (hleft : left.WellFormed) (hright : right.WellFormed) {row : Row} (hrow : row ∈ t.rows) :
    ∃! p, p ∈ left.qualifying right comparisons ∧ left.Combines right t p row := by
  obtain ⟨sources, htogether, hholds, hvalues⟩ := (h.mem_rows_iff row).1 hrow
  rw [← h.titles] at hvalues
  cases htogether with
  | @two _ _ r s hr hs hagree =>
    have hp : (r, s) ∈ left.qualifying right comparisons :=
      Table.mem_qualifying_iff.2 ⟨.two hr hs hagree, hholds⟩
    have hcombines : left.Combines right t (r, s) row :=
      Table.combines_of_map_some h.titles hagree hvalues
    exact ⟨(r, s), ⟨hp, hcombines⟩, fun p' h' ↦ h'.2.unique hleft hright h'.1 hp hcombines⟩

end Query.Result

namespace Database

variable {db : Database}

/-- Comparisons are found in two tables if each title that they read stands in one of them. -/
theorem exists_resolve_two_iff {left right : Table} {comparisons : List Comparison} :
    (∃ conditions, comparisons.mapM (·.resolve [left, right]) = .ok conditions) ↔
      ∀ c ∈ comparisons, ∀ title ∈ c.reads, title ∈ left.titles ∨ title ∈ right.titles := by
  rw [(reports_mapM_comparisons (.inr rfl) comparisons).exists_ok_iff, missing_eq_nil_iff]
  simp only [List.mem_flatMap, forall_exists_index, and_imp, List.exists_mem_cons_iff,
    List.not_mem_nil, false_and, exists_false, or_false]
  exact ⟨fun h c hc title htitle ↦ h title c hc htitle,
    fun h title c hc htitle ↦ h c hc title htitle⟩

/-- **A join of all columns loses nothing.** Of two well-formed tables without commas in their
values, a query for all columns succeeds if each title that is compared stands in one of them. Then
the result has as many rows as there are pairs of rows that agree on shared titles and meet the
comparisons: each such pair has one row with the values of both, and each row is that of one such
pair. Without shared titles and comparisons these are all pairs. -/
theorem select_all_lossless {l r : String} {left right : Table} (hl : db.table? l = some left)
    (hr : db.table? r = some right) (hleft : left.WellFormed) (hright : right.WellFormed)
    (hplain : ∀ row ∈ left.rows, row.Plain) (hplain' : ∀ row ∈ right.rows, row.Plain)
    (passes : Passes) (comparisons : List Comparison) :
    ((∃ t, db.select passes ⟨.all, [l, r], comparisons⟩ = .ok t) ↔
      ∀ c ∈ comparisons, ∀ title ∈ c.reads, title ∈ left.titles ∨ title ∈ right.titles) ∧
    ∀ t, db.select passes ⟨.all, [l, r], comparisons⟩ = .ok t →
      t.rows.length = (left.qualifying right comparisons).length ∧
      (∀ p ∈ left.qualifying right comparisons,
        ∃! row, row ∈ t.rows ∧ left.Combines right t p row) ∧
      (∀ row ∈ t.rows,
        ∃! p, p ∈ left.qualifying right comparisons ∧ left.Combines right t p row) ∧
      ((∀ title ∈ left.titles, title ∉ right.titles) → comparisons = [] →
        t.rows.length = left.rows.length * right.rows.length) := by
  let q : Query := ⟨.all, [l, r], comparisons⟩
  have hnames : q.tables.map db.table? = [left, right].map some := by simp [q, hl, hr]
  have hselect : db.select passes q = _ := select_of_two hnames
  have hdecides {conditions : List Condition}
      (h : comparisons.mapM (·.resolve [left, right]) = .ok conditions) :
      Decides [left, right] q.comparisons (Table.agreement left right ++ conditions) _ :=
    decides_pairs hleft hright passes.left passes.right (mapM_eq_ok_iff.1 h)
  constructor
  · rw [hselect, ← exists_resolve_two_iff]
    constructor
    · rintro ⟨t, h⟩
      obtain ⟨conditions, hconditions, -⟩ := bind_eq_ok_iff.1 h
      exact ⟨conditions, Failure.ofExcept_eq_ok_iff.1 hconditions⟩
    · rintro ⟨conditions, hconditions⟩
      rw [show q.comparisons.mapM (·.resolve [left, right]) = .ok conditions from hconditions]
      exact (hdecides hconditions).exists_collect
        (fun hnil ↦ hleft.titles_ne_nil (List.append_eq_nil_iff.1 hnil).1)
        (Table.nodup_starTitles hleft.nodup_titles hright.nodup_titles)
        fun title htitle ↦ Column.exists_resolve (Table.mem_starTitles_iff.1 htitle)
  · intro t ht
    obtain ⟨conditions, hconditions, hjoin⟩ := bind_eq_ok_iff.1 (hselect.symm.trans ht)
    have hresult : q.Result [left, right] t :=
      (hdecides (Failure.ofExcept_eq_ok_iff.1 hconditions)).result
        (StarJoin.plain_pairs hplain hplain') hjoin
    have hwf : t.WellFormed := wellFormed_of_select ht
    have hrow : ∀ p ∈ left.qualifying right comparisons,
        ∃! row, row ∈ t.rows ∧ left.Combines right t p row :=
      fun p hp ↦ hresult.existsUnique_combines hwf hp
    have hpair : ∀ row ∈ t.rows,
        ∃! p, p ∈ left.qualifying right comparisons ∧ left.Combines right t p row :=
      fun row hrow ↦ hresult.existsUnique_qualifying hleft hright hrow
    have hlength : t.rows.length = (left.qualifying right comparisons).length :=
      length_eq_of_existsUnique hwf.nodup_rows (Table.nodup_qualifying hleft hright) hpair hrow
    refine ⟨hlength, hrow, hpair, fun hshared hnone ↦ ?_⟩
    rw [hlength, hnone, Table.length_qualifying_nil hshared]

/-- A shared title, and a comparison of columns of both tables: of nine pairs three qualify. -/
theorem select_all_lossless_shared :
    let A : Table := ⟨["x", "y"], [⟨["1", "b"]⟩, ⟨["2", "b"]⟩, ⟨["3", "c"]⟩]⟩
    let B : Table := ⟨["y", "z"], [⟨["b", "1"]⟩, ⟨["b", "2"]⟩, ⟨["d", "3"]⟩]⟩
    let comparisons : List Comparison := [⟨"x", .le, .column "z"⟩]
    ∃ t, Database.select ⟨"", [("a", A), ("b", B)]⟩ .arrival ⟨.all, ["a", "b"], comparisons⟩ =
        .ok t ∧ t.rows.length = 3 ∧
      ∀ row ∈ t.rows, ∃! p, p ∈ A.qualifying B comparisons ∧ A.Combines B t p row := by
  intro A B comparisons
  have hA : A.WellFormed := ⟨by decide, by decide, by decide, by decide⟩
  have hB : B.WellFormed := ⟨by decide, by decide, by decide, by decide⟩
  have hplainA : ∀ r ∈ A.rows, r.Plain := by unfold Row.Plain; decide
  have hplainB : ∀ r ∈ B.rows, r.Plain := by unfold Row.Plain; decide
  let db : Database := ⟨"", [("a", A), ("b", B)]⟩
  have ha : db.table? "a" = some A := rfl
  have hb : db.table? "b" = some B := rfl
  obtain ⟨hsome, hall⟩ := select_all_lossless ha hb hA hB hplainA hplainB .arrival comparisons
  obtain ⟨t, ht⟩ := hsome.2 (by decide)
  obtain ⟨hlength, -, hpair, -⟩ := hall t ht
  have hcount : (A.qualifying B comparisons).length = 3 := by decide +kernel
  exact ⟨t, ht, hlength.trans hcount, hpair⟩

end Database

end Tabular
