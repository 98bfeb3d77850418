import Tabular.Condition

/-!
# Selecting and joining

A query looks at the rows of one table, or at all pairs of a row of the left table and a row of the
right one. Of those that meet its conditions it takes the values it asks for, and the results form a
table, in which equal results count once. That a pair agrees on the titles which both tables have is
a matter of conditions too (`agreement`), which are tested before the others.

The order of evaluation can be seen, since a value that is missing makes a query fail. Titles are
checked first, then they are looked up, and only then are rows looked at; of each candidate the
conditions are tested in turn, and its values are taken only if all of them hold. The first
candidate for which a value is missing ends the whole.
-/

namespace Tabular

/-- The rows that the columns make of what meets the conditions. -/
def gather (columns : List Column) (conditions : List Condition) :
    List (List Row) → Option (List Row)
  | [] => some []
  | sources :: rest => do
    if ← Condition.testAll conditions sources then
      let row ← Row.project columns sources
      return row :: (← gather columns conditions rest)
    else gather columns conditions rest

namespace Table

/-- The table with the given titles of what meets the conditions, the titles being looked up in
`tables`. -/
def collect (titles : List String) (tables : List Table) (conditions : List Condition)
    (candidates : List (List Row)) : Except Failure Table := do
  let result ← Failure.ofExcept (new titles)
  let columns ← Failure.ofExcept (titles.mapM (Column.resolve tables))
  let rows ← Failure.ofOption (gather columns conditions candidates)
  Failure.ofExcept (result.addAll rows)

/-- The rows of a table, one at a time. -/
def singles (order : RowOrder) (t : Table) : List (List Row) :=
  (order.list t.rows).map fun r ↦ [r]

/-- The pairs of a row of the left table and a row of the right one. -/
def pairs (leftOrder rightOrder : RowOrder) (left right : Table) : List (List Row) :=
  (leftOrder.list left.rows).flatMap fun r ↦ (rightOrder.list right.rows).map fun s ↦ [r, s]

/-- The conditions that a pair of rows agrees on every title which both tables have. -/
def agreement (left right : Table) : List Condition :=
  right.titles.filterMap fun title ↦
    match left.slot? title, right.slot? title with
    | some i, some j => some ⟨⟨title, .left i⟩, .eq, .column ⟨title, .right j⟩⟩
    | _, _ => none

/-- The values under the given titles of the rows that meet the conditions. -/
def select (t : Table) (titles : List String) (conditions : List Condition) (order : RowOrder) :
    Except Failure Table :=
  collect titles [t] conditions (singles order t)

/-- The values under the given titles of the pairs of rows that agree and meet the conditions. -/
def join (left right : Table) (titles : List String) (conditions : List Condition)
    (leftOrder rightOrder : RowOrder) : Except Failure Table :=
  collect titles [left, right] (agreement left right ++ conditions)
    (pairs leftOrder rightOrder left right)

end Table

end Tabular
