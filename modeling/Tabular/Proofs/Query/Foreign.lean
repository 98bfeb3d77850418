import Tabular.Proofs.Query.Answer

/-!
# Conditions of other tables

A condition stands for places, and nothing keeps it from being tested on rows of other tables than
those it was found in. Then a place may be one that these rows do not have
(`Condition.Misses`), and whether that comes out depends on what is tested before: conditions are
tested in turn and only until one is false (`Condition.Strays`), and in a join those of agreement
come first.

`Table.scanned_under_any_conditions` says of any conditions when a value is missed, in a selection
from one table and in a join of two, and what the result is if none is. Neither depends on the order
in which rows are looked at.

Straying is told by a position: the conditions are `before ++ c :: after`, all before hold, and `c`
misses a value. This is what makes it independent of how conditions are tested, and the scan is
compared with it by one induction over the conditions (`Condition.testAll_eq_none_iff`).

A condition may miss its value on a pair of rows that do not agree, and it makes no difference: a
condition of agreement is false there, and testing never comes so far. `Sifts` says just this, so
one theorem serves both kinds of query (`Table.scanned_of_sifts`).
-/

namespace Tabular

/-! ### Where values are missed -/

/-- The column stands for nothing in these rows: there is no row on its side, or the row is not so
wide. -/
inductive Column.Misses (c : Column) (sources : List Row) : Prop
  | row (h : sources.length ≤ c.binding.source)
  | slot {r : Row} (hr : sources[c.binding.source]? = some r) (h : r.width ≤ c.binding.slot)

namespace Condition

/-- A side of the condition stands for nothing in these rows. -/
def Misses (c : Condition) (sources : List Row) : Prop :=
  c.column.Misses sources ∨ ∃ column, c.target = .column column ∧ column.Misses sources

/-- There are values on both sides, and the relation holds between them. -/
def Holds (c : Condition) (sources : List Row) : Prop :=
  ∃ l r, c.column.value sources = some l ∧ c.target.value sources = some r ∧
    c.relation.holds l r = true

/-- Some condition misses a value in these rows, and all before it hold. -/
def Strays (conditions : List Condition) (sources : List Row) : Prop :=
  ∃ before c after, conditions = before ++ c :: after ∧ (∀ b ∈ before, b.Holds sources) ∧
    c.Misses sources

end Condition

/-- A column has no value in rows where it stands for nothing. -/
theorem Column.value_eq_none_iff {c : Column} {sources : List Row} :
    c.value sources = none ↔ c.Misses sources := by
  rw [value]
  cases hrow : sources[c.binding.source]? with
  | none =>
    have hlength := List.getElem?_eq_none_iff.1 hrow
    exact ⟨fun _ ↦ .row hlength, fun _ ↦ rfl⟩
  | some r =>
    constructor
    · intro hslot
      exact .slot hrow (List.getElem?_eq_none_iff.1 hslot)
    · rintro (hlength | ⟨hr, hwidth⟩)
      · rw [List.getElem?_eq_none hlength] at hrow
        cases hrow
      · rw [hrow, Option.some.injEq] at hr
        subst hr
        exact List.getElem?_eq_none hwidth

/-- A literal has a value anywhere, a column where it stands for something. -/
theorem Target.value_eq_none_iff {target : Target} {sources : List Row} :
    target.value sources = none ↔ ∃ column, target = .column column ∧ column.Misses sources := by
  cases target with
  | column column => simp [value, Column.value_eq_none_iff]
  | literal value => simp [Target.value]

namespace Condition

variable {c : Condition} {cs : List Condition} {sources : List Row}

/-- A condition cannot be tested where a side of it stands for nothing. -/
theorem test_eq_none_iff : c.test sources = none ↔ c.Misses sources := by
  rw [Misses, ← Column.value_eq_none_iff, ← Target.value_eq_none_iff, test]
  cases c.column.value sources with
  | none => simp
  | some l => cases c.target.value sources <;> simp

theorem test_eq_some_true_iff : c.test sources = some true ↔ c.Holds sources := by
  simp [test, Holds, Option.bind_eq_some_iff]

/-! ### Conditions in turn -/

/-- Conditions stray at the first, or at a later one if the first holds. -/
theorem strays_cons_iff : Strays (c :: cs) sources ↔
    c.Misses sources ∨ c.Holds sources ∧ Strays cs sources := by
  constructor
  · rintro ⟨before, c', after, heq, hbefore, hmisses⟩
    cases before with
    | nil =>
      cases heq
      exact .inl hmisses
    | cons b before =>
      cases heq
      rw [List.forall_mem_cons] at hbefore
      exact .inr ⟨hbefore.1, before, c', after, rfl, hbefore.2, hmisses⟩
  · rintro (hmisses | ⟨hholds, before, c', after, rfl, hbefore, hmisses⟩)
    · exact ⟨[], c, cs, rfl, by simp, hmisses⟩
    · exact ⟨c :: before, c', after, rfl, List.forall_mem_cons.2 ⟨hholds, hbefore⟩, hmisses⟩

/-- **A value is missed where conditions that hold lead to one that misses it.** -/
theorem testAll_eq_none_iff : testAll cs sources = none ↔ Strays cs sources := by
  induction cs with
  | nil => simp [testAll, Strays]
  | cons c cs ih =>
    rw [strays_cons_iff, ← test_eq_none_iff, ← test_eq_some_true_iff, ← ih, testAll]
    cases htest : c.test sources with
    | none => simp
    | some holds => cases holds <;> simp

theorem testAll_eq_some_true_iff :
    testAll cs sources = some true ↔ ∀ c ∈ cs, c.Holds sources := by
  induction cs with
  | nil => simp [testAll]
  | cons c cs ih =>
    rw [List.forall_mem_cons, ← ih, ← test_eq_some_true_iff, testAll]
    cases htest : c.test sources with
    | none => simp
    | some holds => cases holds <;> simp

end Condition

/-! ### Scans -/

namespace Sifts

variable {tables : List Table} {conditions tested : List Condition} {candidates : List (List Row)}

/-- A candidate on which a value is missed is looked at, and the conditions stray on it. -/
theorem exists_testAll_eq_none_iff (h : Sifts tables conditions tested candidates) :
    (∃ sources ∈ candidates, Condition.testAll tested sources = none) ↔
      ∃ sources, Together tables sources ∧ Condition.Strays conditions sources := by
  constructor
  · rintro ⟨sources, hsources, htest⟩
    by_cases htogether : Together tables sources
    · rw [h.together sources htogether] at htest
      exact ⟨sources, htogether, Condition.testAll_eq_none_iff.1 htest⟩
    · rw [h.apart sources hsources htogether] at htest
      cases htest
  · rintro ⟨sources, htogether, hstrays⟩
    rw [← Condition.testAll_eq_none_iff, ← h.together sources htogether] at hstrays
    exact ⟨sources, h.mem sources htogether, hstrays⟩

theorem testAll_eq_some_true_iff (h : Sifts tables conditions tested candidates)
    {sources : List Row} (hsources : sources ∈ candidates) :
    Condition.testAll tested sources = some true ↔
      Together tables sources ∧ ∀ c ∈ conditions, c.Holds sources := by
  by_cases htogether : Together tables sources
  · rw [h.together sources htogether, Condition.testAll_eq_some_true_iff, and_iff_right htogether]
  · simp [h.apart sources hsources htogether, htogether]

end Sifts

namespace Table

/-- Of all steps of collecting, only gathering misses a value. -/
theorem collect_eq_outOfRange_iff {titles : List String} {tables : List Table}
    {conditions : List Condition} {candidates : List (List Row)} {columns : List Column}
    (hne : titles ≠ []) (hnodup : titles.Nodup)
    (hcolumns : List.Forall₂ (fun title c ↦ Column.resolve tables title = .ok c) titles columns) :
    collect titles tables conditions candidates = .error .outOfRange ↔
      gather columns conditions candidates = none := by
  cases hrows : gather columns conditions candidates with
  | none =>
    refine iff_of_true ?_ rfl
    rw [collect, new_eq_ok_iff.2 ⟨hne, hnodup, rfl⟩, mapM_eq_ok_iff.2 hcolumns]
    show Failure.ofOption (gather columns conditions candidates) >>= _ = _
    rw [hrows]
    rfl
  | some rows =>
    obtain ⟨t, ht⟩ := exists_collect_of_gather hne hnodup hcolumns hrows
    simp [ht]

/-- The row holds, value for value, what rows that are looked at together hold under the titles,
and all conditions hold on these. -/
def Projects (tables : List Table) (titles : List String) (conditions : List Condition)
    (row : Row) : Prop :=
  ∃ sources, Together tables sources ∧ (∀ c ∈ conditions, c.Holds sources) ∧
    row.values.map some = titles.map (readFrom (tables.zip sources))

/-- What a scan of these tables comes to: a value is missed if on some rows that are looked at
together the conditions stray, and otherwise there is a table of all that is to be projected, where
of rows with one joined form one is kept. -/
structure Scanned (tables : List Table) (titles : List String) (conditions : List Condition)
    (result : Except Failure Table) : Prop where
  outOfRange_iff : result = .error .outOfRange ↔
    ∃ sources, Together tables sources ∧ Condition.Strays conditions sources
  exists_table : result ≠ .error .outOfRange → ∃ t, result = .ok t ∧ t.titles = titles ∧
    (∀ row ∈ t.rows, Projects tables titles conditions row) ∧
    (∀ row, Projects tables titles conditions row → ∃ s ∈ t.rows, row.Same s) ∧
    t.rows.Pairwise fun r s ↦ ¬ r.Same s

/-- **A scan tests the conditions on what is looked at together, and on nothing else.** -/
theorem scanned_of_sifts {tables : List Table} {titles : List String}
    {conditions tested : List Condition} {candidates : List (List Row)}
    (hsifts : Sifts tables conditions tested candidates) (hne : titles ≠ [])
    (hnodup : titles.Nodup)
    (hresolve : ∀ title ∈ titles, ∃ c, Column.resolve tables title = .ok c) :
    Scanned tables titles conditions (collect titles tables tested candidates) := by
  obtain ⟨columns, hcolumns⟩ := exists_forall₂ hresolve
  have hproject : ∀ sources ∈ candidates, ∃ row, Row.project columns sources = some row :=
    fun sources hsources ↦ (hsifts.fit sources hsources).exists_project hcolumns
  have hmissed : collect titles tables tested candidates = .error .outOfRange ↔ _ :=
    collect_eq_outOfRange_iff hne hnodup hcolumns
  refine ⟨?_, fun hnot ↦ ?_⟩
  · rw [hmissed, gather_eq_none_iff hproject, hsifts.exists_testAll_eq_none_iff]
  · obtain ⟨rows, hrows⟩ := Option.ne_none_iff_exists'.1 (mt hmissed.2 hnot)
    obtain ⟨t, ht⟩ := exists_collect_of_gather hne hnodup hcolumns hrows
    obtain ⟨hsound, hcomplete⟩ := rows_of_collect hsifts.fit ht
    refine ⟨t, ht, titles_of_collect ht, fun row hrow ↦ ?_, ?_,
      (wellFormed_of_collect ht).pairwise_not_same⟩
    · obtain ⟨sources, hsources, htest, hvalues⟩ := hsound row hrow
      obtain ⟨htogether, hholds⟩ := (hsifts.testAll_eq_some_true_iff hsources).1 htest
      exact ⟨sources, htogether, hholds, hvalues⟩
    · rintro row ⟨sources, htogether, hholds, hvalues⟩
      have hsources := hsifts.mem sources htogether
      exact hcomplete sources hsources
        ((hsifts.testAll_eq_some_true_iff hsources).2 ⟨htogether, hholds⟩) row hvalues

/-- **When conditions of other tables miss a value.** In a selection from a table under titles that
it has, and in a join of two under titles that one of them has, any conditions miss a value exactly
if they come, on a row of the table or on two rows that agree on shared titles, to a condition with
no value there, all before it being true. Otherwise the result is what the rows on which all
conditions hold have under the titles. All this is so in any order of the rows. -/
theorem scanned_under_any_conditions {A B : Table} (hA : A.WellFormed) (hB : B.WellFormed)
    (conditions : List Condition) {titles : List String} (hne : titles ≠ [])
    (hnodup : titles.Nodup) :
    ((∀ title ∈ titles, ∃ c, Column.resolve [A] title = .ok c) →
      (∀ order, Scanned [A] titles conditions (A.select titles conditions order)) ∧
      ∀ order order', A.select titles conditions order = .error .outOfRange ↔
        A.select titles conditions order' = .error .outOfRange) ∧
    ((∀ title ∈ titles, ∃ c, Column.resolve [A, B] title = .ok c) →
      (∀ leftOrder rightOrder,
        Scanned [A, B] titles conditions (A.join B titles conditions leftOrder rightOrder)) ∧
      ∀ leftOrder rightOrder leftOrder' rightOrder',
        A.join B titles conditions leftOrder rightOrder = .error .outOfRange ↔
          A.join B titles conditions leftOrder' rightOrder' = .error .outOfRange) := by
  constructor
  · intro hresolve
    have hscanned (order : RowOrder) :
        Scanned [A] titles conditions (A.select titles conditions order) :=
      scanned_of_sifts (sifts_singles hA order conditions) hne hnodup hresolve
    exact ⟨hscanned, fun order order' ↦
      (hscanned order).outOfRange_iff.trans (hscanned order').outOfRange_iff.symm⟩
  · intro hresolve
    have hscanned (leftOrder rightOrder : RowOrder) : Scanned [A, B] titles conditions
        (A.join B titles conditions leftOrder rightOrder) :=
      scanned_of_sifts (sifts_pairs hA hB leftOrder rightOrder conditions) hne hnodup hresolve
    exact ⟨hscanned, fun leftOrder rightOrder leftOrder' rightOrder' ↦
      (hscanned leftOrder rightOrder).outOfRange_iff.trans
        (hscanned leftOrder' rightOrder').outOfRange_iff.symm⟩

/-- Two conditions that were found in other tables. The second has no value in any row here, but
only the second row of the first table comes to it, and that row agrees with none of the second
table. -/
theorem scanned_astray :
    let A : Table := ⟨["k", "x"], [⟨["1", "p"]⟩, ⟨["2", "q"]⟩]⟩
    let B : Table := ⟨["k", "y"], [⟨["1", "u"]⟩]⟩
    let others : List Table := [⟨["m"], []⟩, ⟨["n", "o", "z"], []⟩]
    let comparisons : List Comparison := [⟨"m", .eq, .literal "2"⟩, ⟨"z", .lt, .column "m"⟩]
    ∃ conditions, comparisons.mapM (·.resolve others) = .ok conditions ∧
      (∀ order, A.select ["x"] conditions order = .error .outOfRange) ∧
      ∃ t, A.join B ["x", "y"] conditions .arrival .arrival = .ok t ∧ t.titles = ["x", "y"] := by
  intro A B others comparisons
  have hA : A.WellFormed := ⟨by decide, by decide, by decide, by decide⟩
  have hB : B.WellFormed := ⟨by decide, by decide, by decide, by decide⟩
  let first : Condition := ⟨⟨"m", .left 0⟩, .eq, .literal "2"⟩
  let second : Condition := ⟨⟨"z", .right 2⟩, .lt, .column ⟨"m", .left 0⟩⟩
  refine ⟨[first, second], by decide, fun order ↦ ?_, ?_⟩
  · obtain ⟨hscanned, -⟩ := (scanned_under_any_conditions hA hB [first, second]
      (List.cons_ne_nil "x" []) (by decide)).1 fun title htitle ↦
        ⟨⟨"x", .left 1⟩, by rw [List.mem_singleton.1 htitle]; decide⟩
    have hholds : first.Holds [⟨["2", "q"]⟩] := ⟨"2", "2", rfl, rfl, by decide⟩
    have hmisses : second.Misses [⟨["2", "q"]⟩] := .inl (.row (by decide))
    exact (hscanned order).outOfRange_iff.2
      ⟨_, .one (by decide), [first], second, [], rfl, by simpa using hholds, hmisses⟩
  · have hne : ["x", "y"] ≠ [] := by decide
    have hresolve : ∀ title ∈ ["x", "y"], ∃ c, Column.resolve [A, B] title = .ok c :=
      fun title htitle ↦ Column.exists_resolve (by revert title; decide)
    obtain ⟨hscanned, -⟩ := (scanned_under_any_conditions hA hB [first, second] hne
      (by decide)).2 hresolve
    obtain ⟨t, ht, htitles, -⟩ := (hscanned .arrival .arrival).exists_table (by decide +kernel)
    exact ⟨t, ht, htitles⟩

end Table

end Tabular
