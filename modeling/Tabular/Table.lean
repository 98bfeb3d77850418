import Tabular.Error
import Tabular.Row

/-!
# Tables

A table has distinct column titles in a fixed order and a set of rows, each as wide as the table.
Rows are kept in the order in which they came, of rows with one joined form the first; but the order
is no part of a table's meaning, and whatever goes through the rows is given a `RowOrder` to go by.

`Table.WellFormed` states what holds of every table made here. It is not a field of the type: tables
are plain data, and that the operations keep it is proved of each (`wellFormed_of_new`,
`WellFormed.add`, `WellFormed.addAll`).

The joined form is what rows are told apart by, so a row is refused as a repetition even where its
commas fall in other places than those of the row that is there (`Table.add`). A row that repeats
another is not an error: it is left out, and the caller is told so. A row of another width is an
error, and the table stays as it was.
-/

namespace Tabular

/-- A way to go through the rows of a table: each of them once, in any order. -/
structure RowOrder where
  list : List Row → List Row
  perm : ∀ rows, (list rows).Perm rows

/-- The order in which the rows came. -/
def RowOrder.arrival : RowOrder :=
  ⟨id, fun _ ↦ .refl _⟩

/-- Column titles and rows. -/
structure Table where
  titles : List String
  rows : List Row
  deriving DecidableEq, Repr

/-- The first text of a list that stands in it before, or among those seen already. -/
def firstRepeated (seen : List String) : List String → Option String
  | [] => none
  | t :: ts => if t ∈ seen then some t else firstRepeated (t :: seen) ts

/-- Nothing is repeated exactly if the texts are distinct and none of them was seen before. -/
theorem firstRepeated_eq_none_iff {seen ts : List String} :
    firstRepeated seen ts = none ↔ ts.Nodup ∧ ∀ t ∈ ts, t ∉ seen := by
  induction ts generalizing seen with
  | nil => simp [firstRepeated]
  | cons t ts ih =>
    rw [firstRepeated]
    split
    · next h => simp [h]
    · next h =>
      rw [ih, List.nodup_cons]
      constructor
      · rintro ⟨hnodup, hseen⟩
        refine ⟨⟨fun ht ↦ hseen t ht (by simp), hnodup⟩, ?_⟩
        intro u hu
        rcases List.mem_cons.1 hu with rfl | hu
        · exact h
        · exact fun hmem ↦ hseen u hu (by simp [hmem])
      · rintro ⟨⟨ht, hnodup⟩, hseen⟩
        refine ⟨hnodup, fun u hu hmem ↦ ?_⟩
        rcases List.mem_cons.1 hmem with rfl | hmem
        · exact ht hu
        · exact hseen u (by simp [hu]) hmem

namespace Table

/-- A table with these columns and no row. -/
def new (titles : List String) : Except Error Table :=
  if titles = [] then .error .noColumns
  else
    match firstRepeated [] titles with
    | some title => .error (.duplicateColumn title)
    | none => .ok ⟨titles, []⟩

/-- The number of columns. -/
def width (t : Table) : Nat :=
  t.titles.length

/-- The title of a column, if there are so many. -/
def title? (t : Table) (k : Nat) : Option String :=
  t.titles[k]?

/-- The place of the column with a title. -/
def slot? (t : Table) (title : String) : Option Nat :=
  t.titles.idxOf? title

/-- Whether the table has the row. -/
def has (t : Table) (row : Row) : Bool :=
  t.rows.any fun r ↦ decide (row.Same r)

/-- The table with one row more, unless it has the row already, and whether the row was new. -/
def add (t : Table) (row : Row) : Except Error (Bool × Table) :=
  if row.width ≠ t.width then .error (.rowWidth t.width row.width)
  else if t.has row then .ok (false, t)
  else .ok (true, { t with rows := t.rows ++ [row] })

/-- The table with all these rows added, one after the other. -/
def addAll (t : Table) : List Row → Except Error Table
  | [] => .ok t
  | row :: rows =>
    match t.add row with
    | .ok (_, t') => t'.addAll rows
    | .error e => .error e

/-- What holds of every table: there is a column, titles are distinct, rows fit, and no two rows are
the same. -/
structure WellFormed (t : Table) : Prop where
  titles_ne_nil : t.titles ≠ []
  nodup_titles : t.titles.Nodup
  width_eq : ∀ r ∈ t.rows, r.width = t.width
  pairwise_not_same : t.rows.Pairwise fun r s ↦ ¬ r.Same s

/-- A table can be made of any distinct titles, and begins without rows. -/
theorem new_eq_ok_iff {titles : List String} {t : Table} :
    new titles = .ok t ↔ titles ≠ [] ∧ titles.Nodup ∧ t = ⟨titles, []⟩ := by
  unfold new
  split
  · next h => simp [h]
  · next h =>
    split
    · next title hrep =>
      have hdup : ¬ titles.Nodup := fun hnodup ↦ by
        rw [firstRepeated_eq_none_iff.2 ⟨hnodup, by simp⟩] at hrep
        cases hrep
      simp [hdup]
    · next hrep =>
      have hnodup := (firstRepeated_eq_none_iff.1 hrep).1
      simp [h, hnodup, eq_comm]

/-- A new table is well-formed: there is no row in it that could be wrong. -/
theorem wellFormed_of_new {titles : List String} {t : Table} (h : new titles = .ok t) :
    t.WellFormed := by
  obtain ⟨hne, hnodup, rfl⟩ := new_eq_ok_iff.1 h
  exact ⟨hne, hnodup, by simp, .nil⟩

/-- Rows are looked up by their joined forms and not by their values. -/
theorem has_iff {t : Table} {row : Row} : t.has row = true ↔ ∃ r ∈ t.rows, row.Same r := by
  simp [has]

/-- **Adding a row keeps a table well-formed**, whether or not the row was new. -/
theorem WellFormed.add {t t' : Table} {row : Row} {new : Bool} (ht : t.WellFormed)
    (h : t.add row = .ok (new, t')) : t'.WellFormed := by
  unfold Table.add at h
  split at h
  · cases h
  · next hwidth =>
    split at h <;> cases h
    · exact ht
    · next hhas =>
      refine ⟨ht.titles_ne_nil, ht.nodup_titles, ?_, ?_⟩
      · intro r hr
        rcases List.mem_append.1 hr with hr | hr
        · exact ht.width_eq r hr
        · rw [List.mem_singleton.1 hr]
          exact Decidable.not_not.1 hwidth
      · refine List.pairwise_append.2 ⟨ht.pairwise_not_same, List.pairwise_singleton _ _, ?_⟩
        intro r hr s hs hsame
        rw [List.mem_singleton.1 hs] at hsame
        exact hhas (has_iff.2 ⟨r, hr, hsame.symm⟩)

theorem WellFormed.addAll {t t' : Table} {rows : List Row} (ht : t.WellFormed)
    (h : t.addAll rows = .ok t') : t'.WellFormed := by
  induction rows generalizing t with
  | nil => cases h; exact ht
  | cons row rows ih =>
    rw [Table.addAll] at h
    split at h
    · next hadd => exact ih (ht.add hadd) h
    · cases h

end Table

end Tabular
