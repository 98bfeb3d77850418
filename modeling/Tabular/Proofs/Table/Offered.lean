import Mathlib.Data.Finset.Card
import Tabular.Proofs.Table.Reordered

/-!
# Rows offered to a table

Rows of any width are offered to a table one after the other (`Table.offered`). One that does not
fit is refused, and one whose joined form the table has is left out; in both cases the table stays
as it is. So the table is a set under these offers: of the rows that fit it keeps the first with
each joined form (`Table.first?_offered`), and what came in between, or in which order the joined
forms came, leaves no trace but for the choice of that row (`Table.add_after_offers`).

The state of a table is told by what looking up a joined form gives (`Row.first?`), and not by its
list of rows. One equation says what an offer does to that (`Table.first?_offer`), and the same
equation holds of a list of offers by induction (`Table.first?_offered`). Membership, the number of
rows and independence of the order are then read off it, and none of them is an induction again.

## Ways to go through offers

`Table.offered` does not stop at a row that does not fit, unlike `Table.addAll`, which puts the rows
of a file or of a query into a table. Where all rows fit the two agree. Offers are what a table sees
that is used by itself, one insertion after another.
-/

namespace Tabular

/-- The first of some rows with a joined form. -/
def Row.first? (j : String) (rows : List Row) : Option Row :=
  rows.find? fun r ↦ r.joined = j

/-- The first row of two lists is that of the first list, if it has one. -/
theorem Row.first?_append (j : String) (rows rows' : List Row) :
    first? j (rows ++ rows') = (first? j rows).or (first? j rows') :=
  List.find?_append

theorem Row.isSome_first?_iff {j : String} {rows : List Row} :
    (first? j rows).isSome ↔ ∃ r ∈ rows, r.joined = j := by
  simp [first?]

namespace Table

/-- Offers a row to a table: the answer, which tells whether the row was new, and the table
afterwards. A row that is refused leaves the table as it is. -/
def offer (t : Table) (row : Row) : Except Error Bool × Table :=
  match t.add row with
  | .ok (new, t') => (.ok new, t')
  | .error e => (.error e, t)

/-- The table after rows were offered to it, one after the other. -/
def offered (t : Table) : List Row → Table
  | [] => t
  | row :: rows => (t.offer row).2.offered rows

/-- The rows that are as wide as the table. -/
def fitting (t : Table) (rows : List Row) : List Row :=
  rows.filter fun r ↦ r.width = t.width

variable {t : Table}

/-! ### One row -/

/-- **The three answers**: a row is refused for its width, is known, or is new. -/
theorem offer_cases (t : Table) (row : Row) :
    (row.width ≠ t.width ∧ t.offer row = (.error (.rowWidth t.width row.width), t)) ∨
    (row.width = t.width ∧ (∃ r ∈ t.rows, row.Same r) ∧ t.offer row = (.ok false, t)) ∨
    (row.width = t.width ∧ (∀ r ∈ t.rows, ¬ row.Same r) ∧
      t.offer row = (.ok true, { t with rows := t.rows ++ [row] })) := by
  unfold offer
  cases hadd : t.add row with
  | error e =>
    obtain ⟨hwidth, rfl⟩ := add_eq_error_iff.1 hadd
    exact .inl ⟨hwidth, rfl⟩
  | ok result =>
    obtain ⟨new, t'⟩ := result
    obtain ⟨hwidth, ⟨rfl, h, rfl⟩ | ⟨rfl, h, rfl⟩⟩ := add_eq_ok_iff.1 hadd
    · exact .inr (.inl ⟨hwidth, h, rfl⟩)
    · exact .inr (.inr ⟨hwidth, h, rfl⟩)

/-- Each answer tells which of the three it was. -/
theorem offer_iff (t : Table) (row : Row) :
    (t.offer row = (.error (.rowWidth t.width row.width), t) ↔ row.width ≠ t.width) ∧
    ((∃ t', t.offer row = (.ok true, t') ∧ t'.rows.length = t.rows.length + 1) ↔
      row.width = t.width ∧ ¬ ∃ r ∈ t.rows, row.Same r) ∧
    (t.offer row = (.ok false, t) ↔ row.width = t.width ∧ ∃ r ∈ t.rows, row.Same r) := by
  obtain ⟨hwidth, h⟩ | ⟨hwidth, hknown, h⟩ | ⟨hwidth, hnew, h⟩ := offer_cases t row
  · simp [h, hwidth]
  · simp [h, hwidth, hknown]
  · have hunknown : ¬ ∃ r ∈ t.rows, row.Same r := fun ⟨r, hr, hsame⟩ ↦ hnew r hr hsame
    simp [h, hwidth, hunknown]

theorem titles_offer (t : Table) (row : Row) : (t.offer row).2.titles = t.titles := by
  obtain ⟨-, h⟩ | ⟨-, -, h⟩ | ⟨-, -, h⟩ := offer_cases t row <;> rw [h]

/-- An offer leaves a table well-formed, whatever the answer is. -/
theorem WellFormed.offer (ht : t.WellFormed) (row : Row) : (t.offer row).2.WellFormed := by
  unfold Table.offer
  split
  · next hadd => exact ht.add hadd
  · exact ht

/-- After an offer the table has for each joined form the row that it had, or else the row that was
offered, if that fits. -/
theorem first?_offer (t : Table) (row : Row) (j : String) :
    Row.first? j (t.offer row).2.rows = Row.first? j (t.rows ++ t.fitting [row]) := by
  obtain ⟨hwidth, h⟩ | ⟨hwidth, ⟨r, hr, hsame⟩, h⟩ | ⟨hwidth, -, h⟩ := offer_cases t row
  · rw [h]
    simp [fitting, hwidth]
  · rw [h, Row.first?_append]
    cases hfirst : Row.first? j t.rows with
    | some _ => rfl
    | none =>
      -- no row of the table has the joined form, so the row that was offered has another one
      have hne : row.joined ≠ j := fun heq ↦
        List.find?_eq_none.1 hfirst r hr (decide_eq_true (Eq.trans hsame.symm heq))
      simp [fitting, hwidth, Row.first?, hne]
  · rw [h]
    simp [fitting, hwidth]

/-! ### Many rows -/

/-- However many rows are offered, the titles stay. -/
theorem titles_offered (t : Table) (rows : List Row) : (t.offered rows).titles = t.titles := by
  induction rows generalizing t with
  | nil => rfl
  | cons row rows ih => exact (ih _).trans (titles_offer t row)

theorem WellFormed.offered (ht : t.WellFormed) (rows : List Row) : (t.offered rows).WellFormed := by
  induction rows generalizing t with
  | nil => exact ht
  | cons row rows ih => exact ih (ht.offer row)

/-- **The first row that fits is kept**: for each joined form a table has the row that it had at
first, or else the first row of that form that was offered and fits. -/
theorem first?_offered (t : Table) (rows : List Row) (j : String) :
    Row.first? j (t.offered rows).rows = Row.first? j (t.rows ++ t.fitting rows) := by
  induction rows generalizing t with
  | nil => simp [offered, fitting]
  | cons row rows ih =>
    have hwidth : (t.offer row).2.width = t.width := congrArg List.length (titles_offer t row)
    have hfitting : (t.offer row).2.fitting rows = t.fitting rows := by
      rw [fitting, fitting, hwidth]
    calc Row.first? j ((t.offer row).2.offered rows).rows
        = (Row.first? j (t.offer row).2.rows).or (Row.first? j (t.fitting rows)) := by
          rw [ih, hfitting, Row.first?_append]
      _ = Row.first? j (t.rows ++ t.fitting [row] ++ t.fitting rows) := by
          rw [first?_offer, ← Row.first?_append]
      _ = Row.first? j (t.rows ++ t.fitting (row :: rows)) := by
          rw [List.append_assoc, fitting, fitting, ← List.filter_append]
          rfl

/-- Adding rows is offering them, as long as all fit. -/
theorem addAll_eq_ok_iff_offered {t' : Table} {rows : List Row} :
    t.addAll rows = .ok t' ↔ (∀ r ∈ rows, r.width = t.width) ∧ t.offered rows = t' := by
  induction rows generalizing t with
  | nil => simp [addAll, offered]
  | cons row rows ih =>
    rw [addAll, offered, List.forall_mem_cons, Table.offer]
    cases hadd : t.add row with
    | error e => simp [(add_eq_error_iff.1 hadd).1]
    | ok result =>
      obtain ⟨hwidth, htitles, -⟩ := add_eq_ok hadd
      have hmid : result.2.width = t.width := congrArg List.length htitles
      rw [and_iff_right hwidth, ← hmid]
      exact ih

/-! ### A table as a set -/

/-- A row is in a table if it is the first there with its joined form. -/
theorem WellFormed.mem_rows_iff_first? (ht : t.WellFormed) (r : Row) :
    r ∈ t.rows ↔ Row.first? r.joined t.rows = some r := by
  refine ⟨fun hr ↦ ?_, List.mem_of_find?_eq_some⟩
  obtain ⟨s, hs⟩ := Option.isSome_iff_exists.1 (Row.isSome_first?_iff.2 ⟨r, hr, rfl⟩)
  have hsame : s.joined = r.joined := by simpa using List.find?_some hs
  rw [hs, ht.eq_of_same (List.mem_of_find?_eq_some hs) hr hsame]

/-- A table has as many rows as these have joined forms. -/
theorem WellFormed.length_rows (ht : t.WellFormed) :
    t.rows.length = (t.rows.map Row.joined).toFinset.card := by
  have hnodup : (t.rows.map Row.joined).Nodup := List.pairwise_map.2 ht.pairwise_not_same
  rw [List.toFinset_card_of_nodup hnodup, List.length_map]

section New

variable {titles : List String} {t₀ : Table}

/-- A new table has nothing of its own to keep, only what was offered. -/
theorem first?_offered_new (hnew : new titles = .ok t₀) (offers : List Row) (j : String) :
    Row.first? j (t₀.offered offers).rows = Row.first? j (t₀.fitting offers) := by
  obtain ⟨-, -, rfl⟩ := new_eq_ok_iff.1 hnew
  exact first?_offered _ offers j

/-- The joined forms in a table that was empty are those of the rows that were offered and fit. -/
theorem exists_joined_offered_iff (hnew : new titles = .ok t₀) {offers : List Row} {j : String} :
    (∃ r ∈ (t₀.offered offers).rows, r.joined = j) ↔ ∃ r ∈ t₀.fitting offers, r.joined = j := by
  rw [← Row.isSome_first?_iff, first?_offered_new hnew, Row.isSome_first?_iff]

/-- There are as many rows as joined forms among those offered that fit. -/
theorem length_offered_new (hnew : new titles = .ok t₀) (offers : List Row) :
    (t₀.offered offers).rows.length = ((t₀.fitting offers).map Row.joined).toFinset.card := by
  rw [((wellFormed_of_new hnew).offered offers).length_rows]
  congr 1
  ext j
  simpa using exists_joined_offered_iff hnew

/-- The order of the offers is not seen in the table, up to the rows that stand for joined forms. -/
theorem alike_offered_of_perm (hnew : new titles = .ok t₀) {offers offers' : List Row}
    (h : offers.Perm offers') : (t₀.offered offers).Alike (t₀.offered offers') where
  titles := (titles_offered t₀ offers).trans (titles_offered t₀ offers').symm
  rows j := by
    have hfitting : (t₀.fitting offers).Perm (t₀.fitting offers') := h.filter _
    rw [exists_joined_offered_iff hnew, exists_joined_offered_iff hnew]
    simp only [hfitting.mem_iff]

/-- **A table is a set, whatever is offered to it.** After any rows were offered to a new table, the
next one is refused for its width, is new, or is known, and this depends on its width and on the
joined forms of the earlier rows that fit. Only a new row changes the table, which has one row more
then. Of each joined form the table has the first row that fits, so there are as many rows as joined
forms, and both are the same in whatever order the rows were offered. -/
theorem add_after_offers (hnew : new titles = .ok t₀) (offers : List Row) :
    let t := t₀.offered offers
    (∀ row,
      (t.offer row = (.error (.rowWidth titles.length row.width), t) ↔
        row.width ≠ titles.length) ∧
      ((∃ t', t.offer row = (.ok true, t') ∧ t'.rows.length = t.rows.length + 1) ↔
        row.width = titles.length ∧ ¬ ∃ r ∈ t₀.fitting offers, row.Same r) ∧
      (t.offer row = (.ok false, t) ↔
        row.width = titles.length ∧ ∃ r ∈ t₀.fitting offers, row.Same r)) ∧
    (∀ r, r ∈ t.rows ↔ Row.first? r.joined (t₀.fitting offers) = some r) ∧
    t.rows.length = ((t₀.fitting offers).map Row.joined).toFinset.card ∧
    ∀ offers', offers.Perm offers' →
      t.Alike (t₀.offered offers') ∧ t.rows.length = (t₀.offered offers').rows.length := by
  intro t
  refine ⟨fun row ↦ ?_, fun r ↦ ?_, length_offered_new hnew offers, fun offers' hperm ↦
    ⟨alike_offered_of_perm hnew hperm, ?_⟩⟩
  · have htitles : t.titles = titles :=
      (titles_offered t₀ offers).trans (congrArg Table.titles (new_eq_ok_iff.1 hnew).2.2)
    have hwidth : titles.length = t.width := congrArg List.length htitles.symm
    have hsame : (∃ r ∈ t₀.fitting offers, row.Same r) ↔ ∃ r ∈ t.rows, row.Same r := by
      simpa only [Row.Same, eq_comm] using (exists_joined_offered_iff hnew).symm
    rw [hwidth, hsame]
    exact offer_iff t row
  · rw [((wellFormed_of_new hnew).offered offers).mem_rows_iff_first?, first?_offered_new hnew]
  · have hjoined := (hperm.filter fun r ↦ r.width = t₀.width).map Row.joined
    rw [length_offered_new hnew, length_offered_new hnew]
    exact congrArg Finset.card (List.toFinset_eq_of_perm _ _ hjoined)

/-- A row that is too short, and two with one joined form: the first of these two is kept. -/
theorem add_after_offers_commas :
    let t₀ : Table := ⟨["a", "b"], []⟩
    let r : Row := ⟨["x,y", "z"]⟩
    let s : Row := ⟨["x", "y,z"]⟩
    let t := t₀.offered [r, ⟨["1"]⟩, s, ⟨["1", "2"]⟩]
    new ["a", "b"] = .ok t₀ ∧ t.offer s = (.ok false, t) ∧
      t.offer ⟨["1"]⟩ = (.error (.rowWidth 2 1), t) ∧ r ∈ t.rows ∧ s ∉ t.rows ∧
      t.rows.length = 2 := by
  intro t₀ r s t
  have hnew : new ["a", "b"] = .ok t₀ := by decide
  obtain ⟨hoffer, hmem, hlength, -⟩ :=
    add_after_offers hnew [r, ⟨["1"]⟩, s, ⟨["1", "2"]⟩]
  refine ⟨hnew, (hoffer s).2.2.2 ⟨rfl, r, by decide, by decide⟩,
    (hoffer ⟨["1"]⟩).1.2 (by decide), (hmem r).2 (by decide), fun hs ↦ ?_,
    hlength.trans (by decide)⟩
  exact absurd ((hmem s).1 hs) (by decide)

end New

end Table

end Tabular
