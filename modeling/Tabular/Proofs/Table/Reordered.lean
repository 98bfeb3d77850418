import Mathlib.Data.List.Pairwise
import Tabular.Proofs.Disk.Reordered
import Tabular.Proofs.Table.Texts

/-!
# Tables whose rows are in different orders

Of two tables that differ in the order of their rows only (`Table.Reordered`), every operation makes
two tables that do. Two things could let the order through. Of rows with one joined form the first
one stays, but without commas in values those are equal; and of rows that do not fit the first one
is reported, but all that are put into a table together are of one width
(`Table.parallel_addAll`).

Tables are related as lists up to permutation and not as sets, although sets are what they stand
for. Two lists of distinct rows with the same members are permutations of each other, so nothing is
lost; and permutations go through `map`, `flatMap` and `filter` with the lemmas there are. Only
`addAll` needs an argument of its own, since it leaves rows out: what it keeps is the set of all
that were put in (`Table.mem_addAll_iff`), and this set has no order.

## Where commas matter

Two different rows can have one joined form if a value holds a comma. Added in one order the first
of them stays, added in the other order the second, and the tables then differ in more than the
order of rows. Everything here that adds rows to a table asks that no value holds a comma, and of
rows in files this is so by itself.
-/

namespace Tabular

/-- The tables have the same titles in the same order, and the same rows in any order. -/
structure Table.Reordered (t t' : Table) : Prop where
  titles : t.titles = t'.titles
  rows : t.rows.Perm t'.rows

variable {tables tables' : List Table}

/-! ### Columns and conditions -/

/-- **Titles stand for the same places**, whatever the order of rows. -/
theorem Column.resolve_reordered (h : List.Forall₂ Table.Reordered tables tables') :
    resolve tables = resolve tables' := by
  have hslot {t t' : Table} (ht : t.Reordered t') : t.slot? = t'.slot? := by
    funext title
    rw [Table.slot?, Table.slot?, ht.titles]
  have hbinding (title : String) : binding? title tables = binding? title tables' := by
    cases h with
    | nil => rfl
    | cons hleft h =>
      cases h with
      | nil => simp only [binding?, hslot hleft]
      | cons hright _ => simp only [binding?, hslot hleft, hslot hright]
  funext title
  rw [resolve, resolve, hbinding]

/-- All titles means the same titles, whatever the order of rows. -/
theorem Selection.titles_reordered (h : List.Forall₂ Table.Reordered tables tables')
    (selection : Selection) : selection.titles tables = selection.titles tables' := by
  cases selection with
  | columns titles => rfl
  | all =>
    have htitles {left left' : Table} {rest rest' : List Table} (hleft : left.Reordered left')
        (hrest : List.Forall₂ Table.Reordered rest rest') :
        (rest.flatMap fun t ↦ t.titles.filter (· ∉ left.titles)) =
          rest'.flatMap fun t ↦ t.titles.filter (· ∉ left'.titles) := by
      induction hrest with
      | nil => rfl
      | cons ht _ ih => rw [List.flatMap_cons, List.flatMap_cons, ih, ht.titles, hleft.titles]
    cases h with
    | nil => rfl
    | cons hleft hrest => rw [titles, titles, htitles hleft hrest, hleft.titles]

/-! ### Gathering -/

/-- What one candidate adds to what is gathered. -/
def gatherOne (columns : List Column) (conditions : List Condition) (sources : List Row) :
    Option (List Row) := do
  if ← Condition.testAll conditions sources then
    return [← Row.project columns sources]
  else return []

/-- Each candidate adds to what is gathered on its own, before the others. -/
theorem gather_cons_eq_some_iff {columns : List Column} {conditions : List Condition}
    {sources : List Row} {candidates : List (List Row)} {rows : List Row} :
    gather columns conditions (sources :: candidates) = some rows ↔
      ∃ first rest, gatherOne columns conditions sources = some first ∧
        gather columns conditions candidates = some rest ∧ rows = first ++ rest := by
  rw [gather, gatherOne]
  cases Condition.testAll conditions sources with
  | none => simp
  | some holds =>
    cases holds with
    | false => simp [eq_comm]
    | true =>
      cases Row.project columns sources with
      | none => simp
      | some row => cases gather columns conditions candidates <;> simp [eq_comm]

/-- **The order of candidates is that of the rows that are gathered**, and decides nothing else. -/
theorem gather_perm {columns : List Column} {conditions : List Condition}
    {candidates candidates' : List (List Row)} (h : candidates.Perm candidates') {rows : List Row}
    (hrows : gather columns conditions candidates = some rows) :
    ∃ rows', gather columns conditions candidates' = some rows' ∧ rows.Perm rows' := by
  induction h generalizing rows with
  | nil => exact ⟨rows, hrows, .refl rows⟩
  | cons sources _ ih =>
    obtain ⟨first, rest, hfirst, hrest, rfl⟩ := gather_cons_eq_some_iff.1 hrows
    obtain ⟨rest', hrest', hperm⟩ := ih hrest
    exact ⟨first ++ rest', gather_cons_eq_some_iff.2 ⟨first, rest', hfirst, hrest', rfl⟩,
      hperm.append_left first⟩
  | swap sources sources' candidates =>
    obtain ⟨first', _, hfirst', hboth, rfl⟩ := gather_cons_eq_some_iff.1 hrows
    obtain ⟨first, rest, hfirst, hrest, rfl⟩ := gather_cons_eq_some_iff.1 hboth
    have hboth' := gather_cons_eq_some_iff.2 ⟨first', rest, hfirst', hrest, rfl⟩
    exact ⟨_, gather_cons_eq_some_iff.2 ⟨first, _, hfirst, hboth', rfl⟩,
      List.perm_append_comm_assoc ..⟩
  | trans _ _ ih ih' =>
    obtain ⟨rows', hrows', hperm⟩ := ih hrows
    obtain ⟨rows'', hrows'', hperm'⟩ := ih' hrows'
    exact ⟨rows'', hrows'', hperm.trans hperm'⟩

/-- So a value is missed in both orders or in none. -/
theorem parallel_gather {columns : List Column} {conditions : List Condition}
    {candidates candidates' : List (List Row)} (h : candidates.Perm candidates') :
    Parallel (fun rows rows' ↦ gather columns conditions candidates = some rows ∧ rows.Perm rows')
      (Failure.ofOption (gather columns conditions candidates))
      (Failure.ofOption (gather columns conditions candidates')) := by
  cases hrows : gather columns conditions candidates with
  | some rows =>
    obtain ⟨rows', hrows', hperm⟩ := gather_perm h hrows
    rw [hrows']
    exact .ok ⟨rfl, hperm⟩
  | none =>
    cases hrows' : gather columns conditions candidates' with
    | none => exact .error Failure.outOfRange
    | some rows' =>
      obtain ⟨rows, hsome, -⟩ := gather_perm h.symm hrows'
      rw [hrows] at hsome
      cases hsome

namespace Table

variable {t t' : Table}

theorem Reordered.refl (t : Table) : t.Reordered t :=
  ⟨rfl, .refl _⟩

theorem Reordered.width (h : t.Reordered t') : t.width = t'.width :=
  congrArg List.length h.titles

/-- Tables that differ in the order of their rows are gone through in some order of the same rows.
-/
theorem Reordered.list_perm (h : t.Reordered t') (order order' : RowOrder) :
    (order.list t.rows).Perm (order'.list t'.rows) :=
  (order.perm t.rows).trans (h.rows.trans (order'.perm t'.rows).symm)

theorem singles_perm (h : t.Reordered t') (order order' : RowOrder) :
    (singles order t).Perm (singles order' t') :=
  (h.list_perm order order').map _

theorem pairs_perm {left left' right right' : Table} (hleft : left.Reordered left')
    (hright : right.Reordered right') (leftOrder leftOrder' rightOrder rightOrder' : RowOrder) :
    (pairs leftOrder rightOrder left right).Perm (pairs leftOrder' rightOrder' left' right') :=
  (hleft.list_perm leftOrder leftOrder').flatMap fun _ _ ↦
    (hright.list_perm rightOrder rightOrder').map _

/-- On which titles pairs have to agree is a matter of titles. -/
theorem agreement_reordered {left left' right right' : Table} (hleft : left.Reordered left')
    (hright : right.Reordered right') : agreement left right = agreement left' right' := by
  simp only [agreement, slot?, hleft.titles, hright.titles]

/-! ### Putting rows into a table -/

/-- No row stands twice in a table. -/
theorem WellFormed.nodup_rows (ht : t.WellFormed) : t.rows.Nodup :=
  ht.pairwise_not_same.imp fun hsame heq ↦ hsame (congrArg Row.joined heq)

/-- No two rows of a table have one joined form. -/
theorem WellFormed.eq_of_same (ht : t.WellFormed) {r s : Row} (hr : r ∈ t.rows) (hs : s ∈ t.rows)
    (hsame : r.Same s) : r = s := by
  have hsymm : Std.Symm fun r s : Row ↦ ¬ r.Same s := ⟨fun r s h h' ↦ h h'.symm⟩
  by_contra hne
  exact ht.pairwise_not_same.forall hr hs hne hsame

/-- Rows that all fit and hold no comma are all put into a table: none is left out for another that
is not equal to it. -/
theorem mem_addAll_iff {titles : List String} {rows : List Row}
    (hwidth : ∀ r ∈ rows, r.width = titles.length) (hplain : ∀ r ∈ rows, r.Plain)
    (h : (⟨titles, []⟩ : Table).addAll rows = .ok t) (r : Row) : r ∈ t.rows ↔ r ∈ rows := by
  obtain ⟨-, hfrom, -, hin⟩ := addAll_eq_ok h
  have hfrom' : ∀ s ∈ t.rows, s ∈ rows := fun s hs ↦ (hfrom s hs).resolve_left (by simp)
  refine ⟨hfrom' r, fun hr ↦ ?_⟩
  obtain ⟨s, hs, hsame⟩ := hin r hr
  have hs' := hfrom' s hs
  rw [hsame.eq_of_width ((hwidth r hr).trans (hwidth s hs').symm) (hplain r hr) (hplain s hs')]
  exact hs

/-- If rows do not fit, the first one is refused. -/
theorem addAll_eq_error {rows : List Row} {width : Nat} (hwidth : ∀ r ∈ rows, r.width = width)
    (hne : width ≠ t.width) (hrows : rows ≠ []) :
    t.addAll rows = .error (.rowWidth t.width width) := by
  obtain ⟨r, rest, rfl⟩ := List.exists_cons_of_ne_nil hrows
  have hr : r.width = width := hwidth r (by simp)
  rw [addAll, Table.add, if_pos (by rwa [hr]), hr]

/-- **Rows make the same table in any order**, or are refused for the same reason, if they are all
of one width and commas stand only between their values. -/
theorem parallel_addAll {titles : List String} (hnew : new titles = .ok t) {rows rows' : List Row}
    (hperm : rows.Perm rows') {width : Nat} (hwidth : ∀ r ∈ rows, r.width = width)
    (hplain : ∀ r ∈ rows, r.Plain) : Parallel Reordered (t.addAll rows) (t.addAll rows') := by
  have hwidth' : ∀ r ∈ rows', r.width = width := fun r hr ↦ hwidth r (hperm.mem_iff.2 hr)
  by_cases hfit : width = t.width
  · subst hfit
    obtain ⟨-, -, rfl⟩ := new_eq_ok_iff.1 hnew
    have hplain' : ∀ r ∈ rows', r.Plain := fun r hr ↦ hplain r (hperm.mem_iff.2 hr)
    obtain ⟨result, hresult⟩ := exists_addAll_iff.2 hwidth
    obtain ⟨result', hresult'⟩ := exists_addAll_iff.2 hwidth'
    rw [hresult, hresult']
    refine .ok ⟨(addAll_eq_ok hresult).1.trans (addAll_eq_ok hresult').1.symm, ?_⟩
    -- no row stands twice in a table, so it is enough that both have the same ones
    have hwf := wellFormed_of_new hnew
    rw [List.perm_ext_iff_of_nodup (hwf.addAll hresult).nodup_rows (hwf.addAll hresult').nodup_rows]
    intro r
    rw [mem_addAll_iff hwidth hplain hresult, mem_addAll_iff hwidth' hplain' hresult',
      hperm.mem_iff]
  · by_cases hrows : rows = []
    · subst hrows
      rw [List.nil_perm.1 hperm]
      exact .ok (.refl t)
    · have hrows' : rows' ≠ [] := by
        rintro rfl
        exact hrows (List.perm_nil.1 hperm)
      rw [addAll_eq_error hwidth hfit hrows, addAll_eq_error hwidth' hfit hrows']
      exact .error _

/-- With commas, the first of two rows with one joined form stays, and that depends on the order. -/
example :
    let t : Table := ⟨["a", "b"], []⟩
    let r : Row := ⟨["x,y", "z"]⟩
    let s : Row := ⟨["x", "y,z"]⟩
    t.addAll [r, s] = .ok ⟨["a", "b"], [r]⟩ ∧ t.addAll [s, r] = .ok ⟨["a", "b"], [s]⟩ := by
  decide +kernel

/-- A row is new to both tables, known to both, or refused by both. -/
theorem Reordered.add (h : t.Reordered t') (row : Row) :
    Parallel (fun p p' ↦ p.1 = p'.1 ∧ p.2.Reordered p'.2) (t.add row) (t'.add row) := by
  have hhas : t.has row = t'.has row := h.rows.any_eq
  rw [Table.add, Table.add, ← h.width, ← hhas]
  split
  · exact .error _
  · split
    · exact .ok ⟨rfl, h⟩
    · exact .ok ⟨rfl, h.titles, h.rows.append_right [row]⟩

/-- **What is collected does not depend on the order of the candidates.** -/
theorem parallel_collect {titles : List String} {conditions : List Condition}
    {candidates candidates' : List (List Row)} (htables : List.Forall₂ Reordered tables tables')
    (hperm : candidates.Perm candidates')
    (hplain : ∀ sources ∈ candidates, ∀ r ∈ sources, r.Plain) :
    Parallel Reordered (collect titles tables conditions candidates)
      (collect titles tables' conditions candidates') := by
  rw [collect, collect, Column.resolve_reordered htables]
  cases hnew : new titles with
  | error e => exact .error (Failure.error e)
  | ok result =>
    cases hcolumns : titles.mapM (Column.resolve tables') with
    | error e => exact .error (Failure.error e)
    | ok columns =>
      refine (parallel_gather hperm).bind ?_
      rintro rows rows' ⟨hrows, hperm'⟩
      -- all rows are as wide as there are columns
      have hwidth : ∀ r ∈ rows, r.width = columns.length := by
        intro r hr
        obtain ⟨sources, -, -, hproject⟩ := (mem_of_gather hrows r).1 hr
        exact (Row.project_eq_some_iff.1 hproject).length_eq.symm
      have hplain' : ∀ r ∈ rows, r.Plain := by
        intro r hr v hv
        obtain ⟨sources, hsources, r', hr', hmem⟩ := exists_mem_of_gather hrows hr hv
        exact hplain sources hsources r' hr' v hmem
      exact (parallel_addAll hnew hperm' hwidth hplain').ofExcept

/-! ### Files -/

/-- **What a file is read as does not depend on the order of its lines.** -/
theorem parallel_decode {content content' : Text.Bytes} (h : Text.Reordered content content')
    (name : String) : Parallel Reordered (decode name content) (decode name content') := by
  cases h with
  | refl => exact .refl .refl _
  | @lines header lines lines' commas hperm hlf hcommas =>
    have hlf' : ∀ line ∈ header :: lines', '\n' ∉ line.toList := by
      simpa [hperm.mem_iff] using hlf
    rw [decode, decode, Text.ofLines, Text.ofLines, textLines_flatMap hlf, textLines_flatMap hlf']
    simp only [List.map_cons, ofLines]
    cases hnew : new (Text.splitFields (Text.chompText header)) with
    | error e => exact .error e
    | ok t =>
      show Parallel Reordered (t.addLines name ((lines.map Text.chompText).map some))
        (t.addLines name ((lines'.map Text.chompText).map some))
      rw [addLines_map_some, addLines_map_some]
      have hwidth : ∀ r ∈ (lines.map Text.chompText).map Row.ofLine, r.width = commas + 1 := by
        intro r hr
        obtain ⟨text, htext, rfl⟩ := List.mem_map.1 hr
        obtain ⟨line, hline, rfl⟩ := List.mem_map.1 htext
        show (Text.splitFields (Text.chompText line)).length = commas + 1
        rw [Text.length_splitFields, Text.count_chompText, hcommas line hline]
      refine parallel_addAll hnew ((hperm.map _).map _) hwidth fun r hr ↦ ?_
      obtain ⟨text, -, rfl⟩ := List.mem_map.1 hr
      exact Row.plain_ofLine text

/-- **A table is written to the same lines in whatever order.** -/
theorem Reordered.encode (h : t.Reordered t') (ht : t.WellFormed)
    (hinline : t.HoldsOnly Text.Inline) (order order' : RowOrder) :
    Text.Reordered (t.encode order) (t'.encode order') := by
  have hlf : ∀ line ∈ t.fileLines order, '\n' ∉ line.toList :=
    lf_not_mem_fileLines (fun title htitle ↦ (hinline.title title htitle).2)
      fun r hr ↦ lf_not_mem_joined fun v hv ↦ (hinline.value r hr v hv).2
  have hcommas : ∀ line ∈ (order.list t.rows).map Row.joined,
      line.toList.count ',' = t.width - 1 := by
    intro line hline
    obtain ⟨r, hr, rfl⟩ := List.mem_map.1 hline
    rw [(order.perm _).mem_iff] at hr
    have hwidth : r.values.length = t.width := ht.width_eq r hr
    have hnone : (r.values.flatMap String.toList).count ',' = 0 := by
      rw [List.count_eq_zero, List.mem_flatMap]
      rintro ⟨v, hv, hmem⟩
      exact (hinline.value r hr v hv).1 hmem
    have hcount := Text.count_joinFields (ht.values_ne_nil hr)
    rw [hnone, hwidth] at hcount
    rw [Row.joined]
    omega
  have hlines : t'.encode order' =
      Text.ofLines (Text.joinFields t.titles :: (order'.list t'.rows).map Row.joined) := by
    rw [h.titles]
    rfl
  rw [hlines]
  exact .lines ((h.list_perm order order').map _) hlf hcommas

/-- Loading is parallel to itself. -/
theorem parallel_load (dir name : String) :
    Disk.Action.Parallel (Parallel Reordered) (load dir name) (load dir name) := by
  refine .read fun answer answer' hanswer ↦ ?_
  cases hanswer with
  | ok hcontent => exact parallel_decode hcontent name
  | error fault => exact .refl .refl _

/-- Tables that differ in the order of rows are stored in parallel. -/
theorem Reordered.save (h : t.Reordered t') (ht : t.WellFormed)
    (hinline : t.HoldsOnly Text.Inline) (order order' : RowOrder) (dir name : String) :
    Disk.Action.Parallel Eq (t.save order dir name) (t'.save order' dir name) :=
  .write (h.encode ht hinline order order') fun _ ↦ rfl

end Table

end Tabular
