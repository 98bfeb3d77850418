import Tabular.Database
import Tabular.Proofs.Table.Collect

/-!
# Reading values by title

What a query means is told by titles: `Table.read` finds a value in a row by its title, and
`readFrom` finds it in rows of several tables, in that of the first table which has the title.
Nothing is said of places.

In a query that is carried out, titles stand for places instead. For rows that fit their tables both
come to the same (`Fit.value_of_resolve`), for columns (`Fit.project_eq_some_iff`), for comparisons
(`Fit.test_of_resolve`) and for the agreement of two rows (`test_agreement_iff`); and there is a
value at every place that is looked at.

Reading is a partial function from titles to values, and comparisons are judged by such a function
whatever it comes from (`Comparison.Holds`). So the same comparison can be read in a row of a stored
result and in rows of its sources, and theorems that change the tables of a query only have to show
that what is read stays the same.

`Fit` asks of rows no more than their widths. That rows come from the tables, or agree on shared
titles, is asked for where it matters and not here.
-/

namespace Tabular

/-- The value that a row of the table has under a title. -/
def Table.read (t : Table) (r : Row) (title : String) : Option String :=
  (t.titles.zip r.values).lookup title

/-- The value under a title in rows of tables, which is the value in that of the first table with
the title. -/
def readFrom : List (Table × Row) → String → Option String
  | [], _ => none
  | (t, r) :: rest, title => if title ∈ t.titles then t.read r title else readFrom rest title

/-- The value of an operand, where values are read by title. -/
def Operand.read (read : String → Option String) : Operand → Option String
  | column title => read title
  | literal value => some value

/-- The comparison holds, where values are read by title. -/
def Comparison.Holds (read : String → Option String) (c : Comparison) : Prop :=
  ∃ l r, read c.column = some l ∧ c.operand.read read = some r ∧ c.relation.holds l r = true

instance (read : String → Option String) (c : Comparison) : Decidable (c.Holds read) :=
  decidable_of_iff
    ((do return c.relation.holds (← read c.column) (← c.operand.read read)) = some true)
    (by simp [Comparison.Holds, Option.bind_eq_some_iff])

/-- Rows as wide as their tables, of which there are one or two. -/
inductive Fit : List Table → List Row → Prop
  | one {t : Table} {r : Row} (h : r.width = t.width) : Fit [t] [r]
  | two {left right : Table} {r s : Row} (hr : r.width = left.width) (hs : s.width = right.width) :
    Fit [left, right] [r, s]

/-! ### One row -/

/-- The value beside a title is the one at the title's place. -/
theorem lookup_zip (titles values : List String) (title : String) :
    (titles.zip values).lookup title = (titles.idxOf? title).bind (values[·]?) := by
  induction titles generalizing values with
  | nil => rfl
  | cons t titles ih =>
    rw [List.idxOf?_cons]
    cases values with
    | nil => simp
    | cons v values =>
      rw [List.zip_cons_cons, List.lookup_cons, ih]
      by_cases h : t = title
      · subst h
        simp
      · have h' : (title == t) = false := beq_false_of_ne (Ne.symm h)
        rw [h', beq_false_of_ne h]
        cases titles.idxOf? title <;> simp

namespace Table

/-- Reading by title is reading at the place of the title. -/
theorem read_eq (t : Table) (r : Row) (title : String) :
    t.read r title = (t.slot? title).bind r.get? :=
  lookup_zip ..

theorem slot?_eq_none_iff {t : Table} {title : String} : t.slot? title = none ↔ title ∉ t.titles :=
  List.idxOf?_eq_none_iff

theorem lt_width_of_slot? {t : Table} {title : String} {k : Nat} (h : t.slot? title = some k) :
    k < t.width := by
  obtain ⟨hk, -⟩ := List.idxOf?_eq_some_iff.1 h
  exact hk

/-- A row as wide as its table has a value where the table has a title. -/
theorem exists_get?_of_slot? {t : Table} {r : Row} (hr : r.width = t.width) {title : String}
    {k : Nat} (h : t.slot? title = some k) : ∃ v, r.get? k = some v ∧ t.read r title = some v := by
  have hk : k < r.values.length := by
    have hlt := lt_width_of_slot? h
    rwa [← hr] at hlt
  refine ⟨r.values[k], List.getElem?_eq_getElem hk, ?_⟩
  rw [read_eq, h]
  exact List.getElem?_eq_getElem hk

theorem mem_titles_of_slot? {t : Table} {title : String} {k : Nat} (h : t.slot? title = some k) :
    title ∈ t.titles := by
  by_contra hmem
  rw [slot?_eq_none_iff.2 hmem] at h
  cases h

end Table

/-! ### Rows together -/

/-- A column is found with the place of its title. -/
theorem Column.resolve_eq_ok_iff {tables : List Table} {title : String} {c : Column} :
    resolve tables title = .ok c ↔ binding? title tables = some c.binding ∧ c.title = title := by
  unfold resolve
  cases h : binding? title tables with
  | none => simp
  | some b =>
    obtain ⟨title', b'⟩ := c
    simp only [Except.ok.injEq, mk.injEq, Option.some.injEq]
    constructor
    · rintro ⟨rfl, rfl⟩
      exact ⟨rfl, rfl⟩
    · rintro ⟨rfl, rfl⟩
      exact ⟨rfl, rfl⟩

/-- Comparisons stand for the same conditions where titles stand for the same columns. -/
theorem Comparison.resolve_congr {tables tables' : List Table}
    (h : Column.resolve tables = Column.resolve tables') : resolve tables = resolve tables' := by
  have hoperand : Operand.resolve tables = Operand.resolve tables' := by
    funext operand
    cases operand with
    | column title => rw [Operand.resolve, Operand.resolve, h]
    | literal value => rfl
  funext c
  rw [resolve, resolve, h, hoperand]

/-- A title of one of two tables is found. -/
theorem Column.exists_resolve {left right : Table} {title : String}
    (h : title ∈ left.titles ∨ title ∈ right.titles) :
    ∃ c, resolve [left, right] title = .ok c := by
  suffices ∃ b, binding? title [left, right] = some b by
    obtain ⟨b, hb⟩ := this
    exact ⟨⟨title, b⟩, resolve_eq_ok_iff.2 ⟨hb, rfl⟩⟩
  rw [binding?]
  cases hleft : left.slot? title with
  | some k => exact ⟨.left k, rfl⟩
  | none =>
    have hright := h.resolve_left (Table.slot?_eq_none_iff.1 hleft)
    obtain ⟨k, hk⟩ :=
      Option.ne_none_iff_exists'.1 (mt Table.slot?_eq_none_iff.1 (not_not_intro hright))
    exact ⟨.right k, by rw [hk]; rfl⟩

namespace Fit

variable {tables : List Table} {sources : List Row}

/-- **The value at the place of a title is the value under the title.** -/
theorem value_of_resolve (hfit : Fit tables sources) {title : String} {c : Column}
    (h : Column.resolve tables title = .ok c) :
    ∃ v, c.value sources = some v ∧ readFrom (tables.zip sources) title = some v := by
  obtain ⟨hbinding, -⟩ := Column.resolve_eq_ok_iff.1 h
  cases hfit with
  | @one t r hr =>
    obtain ⟨k, hslot, hk⟩ := Option.map_eq_some_iff.1 hbinding
    obtain ⟨v, hget, hread⟩ := Table.exists_get?_of_slot? hr hslot
    refine ⟨v, ?_, ?_⟩
    · rw [Column.value, ← hk]
      exact hget
    · rw [← hread]
      exact if_pos (Table.mem_titles_of_slot? hslot)
  | @two left right r s hr hs =>
    simp only [Column.binding?] at hbinding
    split at hbinding
    · next k hslot =>
      -- the first table has the title
      obtain ⟨v, hget, hread⟩ := Table.exists_get?_of_slot? hr hslot
      refine ⟨v, ?_, ?_⟩
      · rw [Column.value, ← Option.some.inj hbinding]
        exact hget
      · rw [← hread]
        exact if_pos (Table.mem_titles_of_slot? hslot)
    · next hnone =>
      -- only the second has it
      obtain ⟨k, hslot, hk⟩ := Option.map_eq_some_iff.1 hbinding
      obtain ⟨v, hget, hread⟩ := Table.exists_get?_of_slot? hs hslot
      refine ⟨v, ?_, ?_⟩
      · rw [Column.value, ← hk]
        exact hget
      · rw [← hread]
        refine (if_neg (Table.slot?_eq_none_iff.1 hnone)).trans ?_
        exact if_pos (Table.mem_titles_of_slot? hslot)

theorem map_value_of_resolve (hfit : Fit tables sources) {titles : List String}
    {columns : List Column}
    (h : List.Forall₂ (fun title c ↦ Column.resolve tables title = .ok c) titles columns) :
    columns.map (Column.value · sources) = titles.map (readFrom (tables.zip sources)) := by
  induction h with
  | nil => rfl
  | cons hc _ ih =>
    obtain ⟨v, hvalue, hread⟩ := hfit.value_of_resolve hc
    rw [List.map_cons, List.map_cons, ih, hvalue, hread]

/-- **What columns make of rows** is told by their titles. -/
theorem project_eq_some_iff (hfit : Fit tables sources) {titles : List String}
    {columns : List Column}
    (h : List.Forall₂ (fun title c ↦ Column.resolve tables title = .ok c) titles columns)
    {row : Row} :
    Row.project columns sources = some row ↔
      row.values.map some = titles.map (readFrom (tables.zip sources)) := by
  rw [Row.project_eq_some_iff, ← hfit.map_value_of_resolve h, ← List.forall₂_eq_eq_eq,
    List.forall₂_map_left_iff, List.forall₂_map_right_iff]
  constructor
  · exact fun h ↦ (h.imp fun _ _ hv ↦ hv.symm).flip
  · exact fun h ↦ (h.imp fun _ _ hv ↦ hv.symm).flip

/-- Columns that were found make something of rows. -/
theorem exists_project (hfit : Fit tables sources) {titles : List String} {columns : List Column}
    (h : List.Forall₂ (fun title c ↦ Column.resolve tables title = .ok c) titles columns) :
    ∃ row, Row.project columns sources = some row := by
  suffices ∃ values, List.Forall₂ (fun c v ↦ Column.value c sources = some v) columns values by
    obtain ⟨values, hvalues⟩ := this
    exact ⟨⟨values⟩, Row.project_eq_some_iff.2 hvalues⟩
  induction h with
  | nil => exact ⟨[], .nil⟩
  | cons hc _ ih =>
    obtain ⟨values, hvalues⟩ := ih
    obtain ⟨v, hvalue, -⟩ := hfit.value_of_resolve hc
    exact ⟨v :: values, .cons hvalue hvalues⟩

/-- The right-hand side of a condition has the value that is read for the operand. -/
theorem target_value_of_resolve (hfit : Fit tables sources) {operand : Operand} {target : Target}
    (h : operand.resolve tables = .ok target) :
    ∃ v, target.value sources = some v ∧ operand.read (readFrom (tables.zip sources)) = some v := by
  cases operand with
  | column title =>
    rw [Operand.resolve] at h
    split at h <;> cases h
    next hresolve => exact hfit.value_of_resolve hresolve
  | literal value =>
    cases h
    exact ⟨value, rfl, rfl⟩

/-- **A condition is true of rows if the comparison holds of what is read from them**, and false
otherwise. -/
theorem test_of_resolve (hfit : Fit tables sources) {comparison : Comparison} {c : Condition}
    (h : comparison.resolve tables = .ok c) :
    ∃ holds, c.test sources = some holds ∧
      (holds = true ↔ comparison.Holds (readFrom (tables.zip sources))) := by
  obtain ⟨column, hcolumn, h⟩ := bind_eq_ok_iff.1 h
  obtain ⟨target, htarget, h⟩ := bind_eq_ok_iff.1 h
  cases h
  obtain ⟨l, hl, hreadl⟩ := hfit.value_of_resolve hcolumn
  obtain ⟨r, hr, hreadr⟩ := hfit.target_value_of_resolve htarget
  refine ⟨comparison.relation.holds l r, by simp [Condition.test, hl, hr], ?_⟩
  constructor
  · intro hholds
    exact ⟨l, r, hreadl, hreadr, hholds⟩
  · rintro ⟨l', r', hl', hr', hholds⟩
    rw [hreadl] at hl'
    rw [hreadr] at hr'
    cases hl'
    cases hr'
    exact hholds

/-- All conditions are true of rows if all comparisons hold. -/
theorem forall_test_iff (hfit : Fit tables sources) {comparisons : List Comparison}
    {conditions : List Condition}
    (h : List.Forall₂ (fun comparison c ↦ Comparison.resolve tables comparison = .ok c)
      comparisons conditions) :
    (∀ c ∈ conditions, ∃ holds, c.test sources = some holds) ∧
      ((∀ c ∈ conditions, c.test sources = some true) ↔
        ∀ comparison ∈ comparisons, comparison.Holds (readFrom (tables.zip sources))) := by
  induction h with
  | nil => simp
  | cons hc _ ih =>
    obtain ⟨holds, htest, hiff⟩ := hfit.test_of_resolve hc
    simp only [List.forall_mem_cons, ih.2, htest, Option.some.injEq, hiff, and_true]
    exact ⟨⟨holds, rfl⟩, ih.1⟩

end Fit

/-! ### Rows that agree -/

/-- There is a condition of agreement for each title that both tables have. -/
theorem Table.mem_agreement_iff {left right : Table} {c : Condition} :
    c ∈ agreement left right ↔ ∃ title i j, left.slot? title = some i ∧ right.slot? title = some j ∧
      c = ⟨⟨title, .left i⟩, .eq, .column ⟨title, .right j⟩⟩ := by
  rw [agreement, List.mem_filterMap]
  constructor
  · rintro ⟨title, -, h⟩
    split at h
    · next i j hi hj =>
      cases h
      exact ⟨title, i, j, hi, hj, rfl⟩
    · cases h
  · rintro ⟨title, i, j, hi, hj, rfl⟩
    refine ⟨title, mem_titles_of_slot? hj, ?_⟩
    rw [hi, hj]

/-- **The conditions of agreement are true of two rows if both have the same value under each
title** which both tables have. -/
theorem test_agreement_iff {left right : Table} {r s : Row} (hr : r.width = left.width)
    (hs : s.width = right.width) :
    (∀ c ∈ Table.agreement left right, ∃ holds, c.test [r, s] = some holds) ∧
      ((∀ c ∈ Table.agreement left right, c.test [r, s] = some true) ↔
        ∀ title ∈ left.titles, title ∈ right.titles → left.read r title = right.read s title) := by
  -- each condition of agreement compares the two places of one shared title
  have htest {title : String} {i j : Nat} (hi : left.slot? title = some i)
      (hj : right.slot? title = some j) :
      ∃ holds, (⟨⟨title, .left i⟩, .eq, .column ⟨title, .right j⟩⟩ : Condition).test [r, s] =
        some holds ∧
        (holds = true ↔ left.read r title = right.read s title) := by
    obtain ⟨v, hv, hreadv⟩ := Table.exists_get?_of_slot? hr hi
    obtain ⟨w, hw, hreadw⟩ := Table.exists_get?_of_slot? hs hj
    refine ⟨v == w, ?_, by simp [hreadv, hreadw]⟩
    have hleft : Column.value ⟨title, .left i⟩ [r, s] = some v := hv
    have hright : Target.value [r, s] (.column ⟨title, .right j⟩) = some w := hw
    simp [Condition.test, hleft, hright, Relation.holds]
  simp only [Table.mem_agreement_iff]
  refine ⟨?_, ?_, ?_⟩
  · rintro c ⟨title, i, j, hi, hj, rfl⟩
    obtain ⟨holds, h, -⟩ := htest hi hj
    exact ⟨holds, h⟩
  · intro hall title hleft hright
    obtain ⟨i, hi⟩ :=
      Option.ne_none_iff_exists'.1 (mt Table.slot?_eq_none_iff.1 (not_not_intro hleft))
    obtain ⟨j, hj⟩ :=
      Option.ne_none_iff_exists'.1 (mt Table.slot?_eq_none_iff.1 (not_not_intro hright))
    obtain ⟨holds, h, hiff⟩ := htest hi hj
    rw [hall _ ⟨title, i, j, hi, hj, rfl⟩] at h
    exact hiff.1 (Option.some.inj h).symm
  · rintro hagree c ⟨title, i, j, hi, hj, rfl⟩
    obtain ⟨holds, h, hiff⟩ := htest hi hj
    rw [h, hiff.2 (hagree title (Table.mem_titles_of_slot? hi) (Table.mem_titles_of_slot? hj))]

end Tabular
