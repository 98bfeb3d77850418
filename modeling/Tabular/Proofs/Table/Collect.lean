import Tabular.Proofs.Results
import Tabular.Table.Select

/-!
# What is collected

A query's result is made in four steps: its columns are found, the rows that meet the conditions are
gathered, each is cut down to the columns, and all are put into a table, where of equal rows the
first stays. `Table.collect_eq_ok_iff` takes the steps apart; `mem_of_gather` and
`Table.addAll_eq_ok` say what comes out of them.

Values are missed while rows are gathered and nowhere else, so everything about a query that may be
out of range is about `gather`: it gives nothing exactly if a condition cannot be tested on some
candidate, or a column has no value in one that meets the conditions. The other three steps can only
be refused, and each has an inversion of its own.

What is said of the rows of a result is said of their membership. Which of several equal rows stays,
and where in the list it stands, is left to the modules that need it.
-/

namespace Tabular

/-! ### Conditions and projections -/

/-- Conditions that can all be tested hold together if each holds. -/
theorem Condition.exists_testAll {cs : List Condition} {sources : List Row}
    (h : ∀ c ∈ cs, ∃ holds, c.test sources = some holds) :
    ∃ holds, testAll cs sources = some holds ∧
      (holds = true ↔ ∀ c ∈ cs, c.test sources = some true) := by
  induction cs with
  | nil => exact ⟨true, rfl, by simp⟩
  | cons c cs ih =>
    obtain ⟨holds, hrest, hiff⟩ := ih fun c' hc' ↦ h c' (List.mem_cons_of_mem c hc')
    obtain ⟨first, hfirst⟩ := h c (by simp)
    cases first with
    | true => exact ⟨holds, by rw [testAll, hfirst]; exact hrest, by simp [hfirst, hiff]⟩
    | false => exact ⟨false, by rw [testAll, hfirst], by simp [hfirst]⟩

/-- Conditions are tested after others if these hold. -/
theorem Condition.testAll_append (cs cs' : List Condition) (sources : List Row) :
    testAll (cs ++ cs') sources =
      (testAll cs sources).bind fun holds ↦ if holds then testAll cs' sources else some false := by
  induction cs with
  | nil => simp [testAll]
  | cons c cs ih =>
    rw [List.cons_append, testAll, testAll]
    cases c.test sources with
    | none => rfl
    | some holds =>
      cases holds with
      | false => rfl
      | true => exact ih

/-- A row is cut out of candidates if each of its values is that of its column. -/
theorem Row.project_eq_some_iff {columns : List Column} {sources : List Row} {row : Row} :
    project columns sources = some row ↔
      List.Forall₂ (fun c v ↦ Column.value c sources = some v) columns row.values := by
  rw [← mapM_eq_some_iff, project, Option.map_eq_some_iff]
  constructor
  · rintro ⟨values, h, rfl⟩
    exact h
  · intro h
    exact ⟨row.values, h, rfl⟩

/-- **What is gathered** is cut out of candidates that meet the conditions, out of every one of
them. -/
theorem mem_of_gather {columns : List Column} {conditions : List Condition}
    {candidates : List (List Row)}
    {rows : List Row} (h : gather columns conditions candidates = some rows) (row : Row) :
    row ∈ rows ↔ ∃ sources ∈ candidates,
      Condition.testAll conditions sources = some true ∧
        Row.project columns sources = some row := by
  induction candidates generalizing rows with
  | nil =>
    cases h
    simp
  | cons sources candidates ih =>
    simp only [gather, Option.bind_eq_bind, Option.bind_eq_some_iff] at h
    obtain ⟨holds, htest, h⟩ := h
    cases holds with
    | false =>
      rw [ih h]
      simp [htest]
    | true =>
      simp only [if_true, Option.bind_eq_some_iff] at h
      obtain ⟨first, hfirst, rest, hrest, h⟩ := h
      cases h
      rw [List.mem_cons, ih hrest]
      simp [htest, hfirst, eq_comm]

/-- **Gathering misses a value where testing the conditions does**, if columns have values. -/
theorem gather_eq_none_iff {columns : List Column} {conditions : List Condition}
    {candidates : List (List Row)}
    (h : ∀ sources ∈ candidates, ∃ row, Row.project columns sources = some row) :
    gather columns conditions candidates = none ↔
      ∃ sources ∈ candidates, Condition.testAll conditions sources = none := by
  induction candidates with
  | nil => simp [gather]
  | cons sources candidates ih =>
    obtain ⟨⟨row, hrow⟩, hrest⟩ := List.forall_mem_cons.1 h
    rw [List.exists_mem_cons_iff, ← ih hrest, gather]
    cases Condition.testAll conditions sources with
    | none => simp
    | some holds =>
      cases holds with
      | false => simp
      | true => cases gather columns conditions candidates <;> simp [hrow]

/-- Gathering succeeds where conditions can be tested and columns have values. -/
theorem exists_gather {columns : List Column} {conditions : List Condition}
    {candidates : List (List Row)}
    (h : ∀ sources ∈ candidates, (∃ holds, Condition.testAll conditions sources = some holds) ∧
      ∃ row, Row.project columns sources = some row) :
    ∃ rows, gather columns conditions candidates = some rows := by
  refine Option.ne_none_iff_exists'.1 fun hnone ↦ ?_
  obtain ⟨sources, hsources, htest⟩ :=
    (gather_eq_none_iff fun sources hsources ↦ (h sources hsources).2).1 hnone
  obtain ⟨⟨holds, hholds⟩, -⟩ := h sources hsources
  rw [htest] at hholds
  cases hholds

namespace Table

/-! ### Putting rows into a table -/

/-- A row that is as wide as the table is there already, or comes to the others. -/
theorem add_eq_ok_iff {t t' : Table} {row : Row} {new : Bool} :
    t.add row = .ok (new, t') ↔ row.width = t.width ∧
      ((new = false ∧ (∃ r ∈ t.rows, row.Same r) ∧ t' = t) ∨
        (new = true ∧ (∀ r ∈ t.rows, ¬ row.Same r) ∧ t' = { t with rows := t.rows ++ [row] })) := by
  have hhas : t.has row = false ↔ ∀ r ∈ t.rows, ¬ row.Same r := by
    rw [← Bool.not_eq_true, has_iff]
    simp
  unfold add
  by_cases hwidth : row.width = t.width
  · rw [if_neg (not_not_intro hwidth), and_iff_right hwidth, ← hhas, ← has_iff]
    cases t.has row <;> simp [and_comm, eq_comm]
  · simp [hwidth]

/-- A row is refused for its width, and for nothing else. -/
theorem add_eq_error_iff {t : Table} {row : Row} {e : Error} :
    t.add row = .error e ↔ row.width ≠ t.width ∧ e = .rowWidth t.width row.width := by
  unfold add
  by_cases hwidth : row.width = t.width
  · rw [if_neg (not_not_intro hwidth)]
    cases t.has row <;> simp [hwidth]
  · simp [hwidth, eq_comm]

/-- What adding a row leaves: the same table, or the same with the row at its end. -/
theorem add_eq_ok {t t' : Table} {row : Row} {new : Bool} (h : t.add row = .ok (new, t')) :
    row.width = t.width ∧ t'.titles = t.titles ∧
      ((t' = t ∧ ∃ r ∈ t.rows, row.Same r) ∨ t'.rows = t.rows ++ [row]) := by
  obtain ⟨hwidth, ⟨-, hsame, rfl⟩ | ⟨-, -, rfl⟩⟩ := add_eq_ok_iff.1 h
  · exact ⟨hwidth, rfl, .inl ⟨rfl, hsame⟩⟩
  · exact ⟨hwidth, rfl, .inr rfl⟩

/-- A row that was added is there, or one that is the same, and nothing else comes in or goes. -/
theorem mem_add {t t' : Table} {row : Row} {new : Bool} (h : t.add row = .ok (new, t')) :
    (∀ r ∈ t'.rows, r ∈ t.rows ∨ r = row) ∧ (∀ r ∈ t.rows, r ∈ t'.rows) ∧
      ∃ s ∈ t'.rows, row.Same s := by
  obtain ⟨-, -, ⟨rfl, hsame⟩ | hrows⟩ := add_eq_ok h
  · exact ⟨fun r hr ↦ .inl hr, fun r hr ↦ hr, hsame⟩
  · rw [hrows]
    exact ⟨by simp, fun r hr ↦ by simp [hr], row, by simp, .refl row⟩

/-- **The rows of a table to which rows were added** are some of both, and among them one the same
as each. -/
theorem addAll_eq_ok {t t' : Table} {rows : List Row} (h : t.addAll rows = .ok t') :
    t'.titles = t.titles ∧ (∀ r ∈ t'.rows, r ∈ t.rows ∨ r ∈ rows) ∧
      (∀ r ∈ t.rows, r ∈ t'.rows) ∧ ∀ r ∈ rows, ∃ s ∈ t'.rows, r.Same s := by
  induction rows generalizing t with
  | nil =>
    cases h
    exact ⟨rfl, fun r hr ↦ .inl hr, fun r hr ↦ hr, by simp⟩
  | cons row rows ih =>
    rw [addAll] at h
    split at h
    · next new mid hadd =>
      obtain ⟨-, htitles, -⟩ := add_eq_ok hadd
      obtain ⟨hfrom, hkept, s, hs, hsame⟩ := mem_add hadd
      obtain ⟨htitles', hfrom', hkept', hall'⟩ := ih h
      refine ⟨htitles'.trans htitles, fun r hr ↦ ?_, fun r hr ↦ hkept' r (hkept r hr),
        fun r hr ↦ ?_⟩
      · rcases hfrom' r hr with hr | hr
        · rcases hfrom r hr with hr | rfl
          · exact .inl hr
          · exact .inr (by simp)
        · exact .inr (List.mem_cons_of_mem row hr)
      · rcases List.mem_cons.1 hr with rfl | hr
        · exact ⟨s, hkept' s hs, hsame⟩
        · exact hall' r hr
    · cases h

/-- Rows are added if each is as wide as the table, and only then. -/
theorem exists_addAll_iff {t : Table} {rows : List Row} :
    (∃ t', t.addAll rows = .ok t') ↔ ∀ r ∈ rows, r.width = t.width := by
  induction rows generalizing t with
  | nil => exact ⟨fun _ ↦ by simp, fun _ ↦ ⟨t, rfl⟩⟩
  | cons row rows ih =>
    rw [addAll]
    cases hadd : t.add row with
    | error e =>
      simp [(add_eq_error_iff.1 hadd).1]
    | ok result =>
      obtain ⟨new, mid⟩ := result
      obtain ⟨hwidth, htitles, -⟩ := add_eq_ok hadd
      have hmid : mid.width = t.width := congrArg List.length htitles
      rw [List.forall_mem_cons, and_iff_right hwidth, ← hmid]
      exact ih

/-! ### Collecting -/

/-- The steps of collecting. -/
theorem collect_eq_ok_iff {titles : List String} {tables : List Table} {conditions : List Condition}
    {candidates : List (List Row)} {t : Table} :
    collect titles tables conditions candidates = .ok t ↔
      titles ≠ [] ∧ titles.Nodup ∧ ∃ columns rows,
      List.Forall₂ (fun title c ↦ Column.resolve tables title = .ok c) titles columns ∧
      gather columns conditions candidates = some rows ∧
        (⟨titles, []⟩ : Table).addAll rows = .ok t := by
  simp only [collect, bind_eq_ok_iff, Failure.ofExcept_eq_ok_iff, Failure.ofOption_eq_ok_iff,
    new_eq_ok_iff, mapM_eq_ok_iff]
  constructor
  · rintro ⟨_, ⟨hne, hnodup, rfl⟩, columns, hcolumns, rows, hrows, h⟩
    exact ⟨hne, hnodup, columns, rows, hcolumns, hrows, h⟩
  · rintro ⟨hne, hnodup, columns, rows, hcolumns, hrows, h⟩
    exact ⟨_, ⟨hne, hnodup, rfl⟩, columns, hcolumns, rows, hrows, h⟩

theorem titles_of_collect {titles : List String} {tables : List Table}
    {conditions : List Condition} {candidates : List (List Row)} {t : Table}
    (h : collect titles tables conditions candidates = .ok t) : t.titles = titles := by
  obtain ⟨-, -, columns, rows, -, -, hadd⟩ := collect_eq_ok_iff.1 h
  exact (addAll_eq_ok hadd).1

/-- **A table of what was collected is well-formed**, whatever it was collected from. -/
theorem wellFormed_of_collect {titles : List String} {tables : List Table}
    {conditions : List Condition} {candidates : List (List Row)} {t : Table}
    (h : collect titles tables conditions candidates = .ok t) :
    t.WellFormed := by
  obtain ⟨hne, hnodup, columns, rows, -, -, hadd⟩ := collect_eq_ok_iff.1 h
  have hnew : (⟨titles, []⟩ : Table).WellFormed :=
    wellFormed_of_new (new_eq_ok_iff.2 ⟨hne, hnodup, rfl⟩)
  exact hnew.addAll hadd

/-- Collecting misses a value only in what it gathers. -/
theorem exists_error_of_collect {titles : List String} {tables : List Table}
    {conditions : List Condition} {candidates : List (List Row)} {f : Failure}
    (h : collect titles tables conditions candidates = .error f)
    (hgather : ∀ columns,
      List.Forall₂ (fun title c ↦ Column.resolve tables title = .ok c) titles columns →
      ∃ rows, gather columns conditions candidates = some rows) :
    ∃ e, f = .error e := by
  -- each step but the gathering is refused with an error
  rcases bind_eq_error_iff.1 h with h | ⟨result, -, h⟩
  · obtain ⟨e, -, rfl⟩ := Failure.ofExcept_eq_error_iff.1 h
    exact ⟨e, rfl⟩
  rcases bind_eq_error_iff.1 h with h | ⟨columns, hcolumns, h⟩
  · obtain ⟨e, -, rfl⟩ := Failure.ofExcept_eq_error_iff.1 h
    exact ⟨e, rfl⟩
  obtain ⟨rows, hrows⟩ := hgather columns (mapM_eq_ok_iff.1 (Failure.ofExcept_eq_ok_iff.1 hcolumns))
  rw [hrows] at h
  obtain ⟨e, -, rfl⟩ := Failure.ofExcept_eq_error_iff.1 h
  exact ⟨e, rfl⟩

end Table

end Tabular
