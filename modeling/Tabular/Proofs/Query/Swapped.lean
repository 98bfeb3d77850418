import Tabular.Proofs.Query.Answer
import Tabular.Proofs.Table.RoundTrip

/-!
# Joining in the other order

A join looks titles up in its left table first, so the tables change every place that a title stands
for when they change places, and which of them a shared title is read from. It makes no difference
to what is read: two rows that are looked at together agree on all titles that both tables have
(`readFrom_swap`). So a query of two tables has the same answers in either order
(`Query.makes_swap`), and fails for the same title where it fails (`Table.joinWhere_comm`).

That queries with the same answers have results that are alike holds of any two queries
(`Decides.parallel_alike`), whatever commas the values hold.

Places are not compared at all. What a title stands for is found in both orders or in neither, under
the same name (`Column.parallel_resolve_swap`), and nothing more is said of it; what is read there
is compared by title. The order of columns that `*` asks for does depend on the order of the tables,
and so the titles are named here.
-/

namespace Tabular

/-! ### Titles that are found -/

namespace Column

/-- A title is refused if it has no place, and by its name. -/
theorem resolve_eq_error_iff {tables : List Table} {title : String} {e : Error} :
    resolve tables title = .error e ↔
      binding? title tables = none ∧ e = .columnNotFound title := by
  unfold resolve
  cases binding? title tables with
  | none => simp [eq_comm]
  | some b => simp

theorem binding?_eq_none_iff {left right : Table} {title : String} :
    binding? title [left, right] = none ↔ title ∉ left.titles ∧ title ∉ right.titles := by
  rw [binding?]
  split
  · next k hslot => simp [Table.mem_titles_of_slot? hslot]
  · next hslot =>
    rw [Option.map_eq_none_iff, Table.slot?_eq_none_iff, and_iff_right]
    exact Table.slot?_eq_none_iff.1 hslot

/-- **A title is found in two tables in either order**, or is missed under the same name. -/
theorem parallel_resolve_swap (left right : Table) (title : String) :
    Parallel (fun _ _ ↦ True) (resolve [left, right] title) (resolve [right, left] title) := by
  by_cases hmissed : title ∉ left.titles ∧ title ∉ right.titles
  · have herror := resolve_eq_error_iff.2 ⟨binding?_eq_none_iff.2 hmissed, rfl⟩
    have herror' := resolve_eq_error_iff.2 ⟨binding?_eq_none_iff.2 hmissed.symm, rfl⟩
    rw [herror, herror']
    exact .error _
  · have hfound : title ∈ left.titles ∨ title ∈ right.titles := by tauto
    obtain ⟨c, hc⟩ := exists_resolve hfound
    obtain ⟨c', hc'⟩ := exists_resolve hfound.symm
    rw [hc, hc']
    exact .ok trivial

end Column

/-- A comparison is found in two tables in either order, or is refused for the same title. -/
theorem Comparison.parallel_resolve_swap (left right : Table) (c : Comparison) :
    Parallel (fun _ _ ↦ True) (c.resolve [left, right]) (c.resolve [right, left]) := by
  have hoperand : Parallel (fun _ _ ↦ True) (c.operand.resolve [left, right])
      (c.operand.resolve [right, left]) := by
    cases c.operand with
    | literal value => exact .ok trivial
    | column title =>
      rw [Operand.resolve, Operand.resolve]
      obtain ⟨e, h, h'⟩ | ⟨column, column', h, h', -⟩ :=
        (Column.parallel_resolve_swap left right title).error_or_ok
      · rw [h, h']
        exact .error e
      · rw [h, h']
        exact .ok trivial
  exact (Column.parallel_resolve_swap left right c.column).bind fun _ _ _ ↦
    hoperand.bind fun _ _ _ ↦ .ok trivial

/-! ### Answers -/

/-- **Rows that agree on shared titles are read alike in either order.** -/
theorem readFrom_swap {left right : Table} {r s : Row}
    (hagree : ∀ title ∈ left.titles, title ∈ right.titles →
      left.read r title = right.read s title) :
    readFrom [(left, r), (right, s)] = readFrom [(right, s), (left, r)] := by
  funext title
  by_cases hleft : title ∈ left.titles
  · by_cases hright : title ∈ right.titles
    · simp [readFrom, hleft, hright, hagree title hleft hright]
    · simp [readFrom, hleft, hright]
  · simp [readFrom, hleft]

/-- Rows that are looked at together are so in either order, and read alike. -/
theorem Together.swap {left right : Table} {sources : List Row}
    (h : Together [left, right] sources) :
    ∃ sources', Together [right, left] sources' ∧
      readFrom ([left, right].zip sources) = readFrom ([right, left].zip sources') := by
  cases h with
  | two hr hs hagree =>
    exact ⟨_, .two hs hr fun title hright hleft ↦ (hagree title hleft hright).symm,
      readFrom_swap hagree⟩

/-- A query for these titles has the same answers in either order of its tables. -/
theorem Query.makes_swap {titles names : List String} {comparisons : List Comparison}
    {left right : Table} {row : Row} :
    (⟨.columns titles, names, comparisons⟩ : Query).Makes [left, right] row ↔
      (⟨.columns titles, names, comparisons⟩ : Query).Makes [right, left] row := by
  suffices ∀ {left right : Table},
      (⟨.columns titles, names, comparisons⟩ : Query).Makes [left, right] row →
        (⟨.columns titles, names, comparisons⟩ : Query).Makes [right, left] row from
    ⟨this, this⟩
  rintro left right ⟨sources, htogether, hholds, hvalues⟩
  obtain ⟨sources', htogether', hread⟩ := htogether.swap
  rw [hread] at hholds hvalues
  exact ⟨sources', htogether', hholds, hvalues⟩

/-- **Queries with the same answers have results that are alike**, if a title that is missed by one
is missed by the other. -/
theorem Decides.parallel_alike {tables tables' : List Table} {q q' : Query}
    {conditions conditions' : List Condition} {candidates candidates' : List (List Row)}
    (hdecides : Decides tables q.comparisons conditions candidates)
    (hdecides' : Decides tables' q'.comparisons conditions' candidates')
    (htitles : q.titles tables = q'.titles tables')
    (hresolve : ∀ title,
      Parallel (fun _ _ ↦ True) (Column.resolve tables title) (Column.resolve tables' title))
    (hmakes : ∀ row, q.Makes tables row ↔ q'.Makes tables' row) :
    Parallel Table.Alike (Table.collect (q.titles tables) tables conditions candidates)
      (Table.collect (q'.titles tables') tables' conditions' candidates') := by
  cases hnew : Table.new (q.titles tables) with
  | error e =>
    rw [← htitles, Table.collect, Table.collect, hnew]
    exact .error (Failure.error e)
  | ok _ =>
    have hall : Parallel _ ((q.titles tables).mapM (Column.resolve tables))
        ((q.titles tables).mapM (Column.resolve tables')) := .mapM hresolve
    obtain ⟨e, hmissed, hmissed'⟩ | ⟨columns, columns', hcolumns, hcolumns', -⟩ :=
      hall.error_or_ok
    · rw [← htitles, Table.collect, Table.collect, hnew, hmissed, hmissed']
      exact .error (Failure.error e)
    · -- nothing else can be refused: both succeed, and their rows are answers
      obtain ⟨hne, hnodup, -⟩ := Table.new_eq_ok_iff.1 hnew
      have hfound : ∀ title ∈ q.titles tables, ∃ c, Column.resolve tables title = .ok c := by
        intro title htitle
        obtain ⟨c, -, hc⟩ := exists_mem_of_forall₂ (mapM_eq_ok_iff.1 hcolumns) htitle
        exact ⟨c, hc⟩
      have hfound' : ∀ title ∈ q.titles tables, ∃ c, Column.resolve tables' title = .ok c := by
        intro title htitle
        obtain ⟨c, -, hc⟩ := exists_mem_of_forall₂ (mapM_eq_ok_iff.1 hcolumns') htitle
        exact ⟨c, hc⟩
      obtain ⟨t, ht⟩ := hdecides.exists_collect hne hnodup hfound
      rw [htitles] at hne hnodup hfound'
      obtain ⟨t', ht'⟩ := hdecides'.exists_collect hne hnodup hfound'
      obtain ⟨htitle, hsound, hcomplete⟩ := hdecides.collect ht
      obtain ⟨htitle', hsound', hcomplete'⟩ := hdecides'.collect ht'
      rw [ht, ht']
      refine .ok ⟨htitle.trans (htitles.trans htitle'.symm), fun j ↦ ⟨?_, ?_⟩⟩
      · rintro ⟨row, hrow, rfl⟩
        obtain ⟨s, hs, hsame⟩ := hcomplete' row ((hmakes row).1 (hsound row hrow))
        exact ⟨s, hs, hsame.symm⟩
      · rintro ⟨row, hrow, rfl⟩
        obtain ⟨s, hs, hsame⟩ := hcomplete row ((hmakes row).2 (hsound' row hrow))
        exact ⟨s, hs, hsame.symm⟩

/-! ### Joins -/

namespace Table

/-- The join of two tables under comparisons, whose titles are looked up in the two tables first. -/
def joinWhere (left right : Table) (titles : List String) (comparisons : List Comparison)
    (leftOrder rightOrder : RowOrder) : Except Failure Table := do
  let conditions ← Failure.ofExcept (comparisons.mapM (·.resolve [left, right]))
  left.join right titles conditions leftOrder rightOrder

/-- **A join is commutative.** Of two well-formed tables, in either order and whatever orders their
rows come in, it has the same titles and the same rows in joined form, or it is refused with the
same error. No value is missed in it. -/
theorem joinWhere_comm {left right : Table} (hleft : left.WellFormed) (hright : right.WellFormed)
    (titles : List String) (comparisons : List Comparison)
    (leftOrder rightOrder leftOrder' rightOrder' : RowOrder) :
    Parallel Alike (left.joinWhere right titles comparisons leftOrder rightOrder)
        (right.joinWhere left titles comparisons rightOrder' leftOrder') ∧
      left.joinWhere right titles comparisons leftOrder rightOrder ≠ .error .outOfRange := by
  let q : Query := ⟨.columns titles, [], comparisons⟩
  have hresolve : Parallel _ (comparisons.mapM (·.resolve [left, right]))
      (comparisons.mapM (·.resolve [right, left])) :=
    .mapM (Comparison.parallel_resolve_swap left right)
  rw [joinWhere, joinWhere]
  obtain ⟨e, hmissed, hmissed'⟩ | ⟨conditions, conditions', hfound, hfound', -⟩ :=
    hresolve.error_or_ok
  · rw [hmissed, hmissed']
    exact ⟨.error (Failure.error e), by rintro ⟨⟩⟩
  · rw [hfound, hfound']
    have hdecides : Decides [left, right] q.comparisons _ _ :=
      decides_pairs hleft hright leftOrder rightOrder (mapM_eq_ok_iff.1 hfound)
    have hdecides' : Decides [right, left] q.comparisons _ _ :=
      decides_pairs hright hleft rightOrder' leftOrder' (mapM_eq_ok_iff.1 hfound')
    exact ⟨hdecides.parallel_alike hdecides' rfl (Column.parallel_resolve_swap left right)
      fun row ↦ Query.makes_swap, hdecides.collect_ne_outOfRange⟩

/-- A comparison of the shared title with one that only the second table has, and a value with a
comma. -/
theorem joinWhere_comm_shared :
    let A : Table := ⟨["k", "x"], [⟨["1", "a,b"]⟩, ⟨["2", "c"]⟩]⟩
    let B : Table := ⟨["y", "k"], [⟨["0", "1"]⟩, ⟨["3", "1"]⟩, ⟨["4", "2"]⟩]⟩
    let more : List Comparison := [⟨"k", .lt, .column "y"⟩, ⟨"x", .ne, .literal "c"⟩]
    ∃ t t', A.joinWhere B ["y", "x", "k"] more .arrival .arrival = .ok t ∧
      B.joinWhere A ["y", "x", "k"] more .arrival .arrival = .ok t' ∧
      t.Alike t' ∧ ∃ r ∈ t.rows, r.joined = "3,a,b,1" := by
  intro A B more
  have hA : A.WellFormed := ⟨by decide, by decide, by decide, by decide⟩
  have hB : B.WellFormed := ⟨by decide, by decide, by decide, by decide⟩
  have ht : A.joinWhere B ["y", "x", "k"] more .arrival .arrival =
      .ok ⟨["y", "x", "k"], [⟨["3", "a,b", "1"]⟩]⟩ := by decide +kernel
  obtain ⟨hparallel, -⟩ :=
    joinWhere_comm hA hB ["y", "x", "k"] more .arrival .arrival .arrival .arrival
  rw [ht] at hparallel
  obtain ⟨e, he, -⟩ | ⟨_, t', heq, ht', halike⟩ := hparallel.error_or_ok
  · exact absurd he (by simp)
  · rw [← Except.ok.inj heq] at halike
    exact ⟨_, t', ht, ht', halike, _, List.mem_singleton_self _, by decide⟩

end Table

end Tabular
