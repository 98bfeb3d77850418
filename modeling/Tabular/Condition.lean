import Tabular.Column
import Tabular.Statement

/-!
# Conditions

A condition is a comparison whose titles have been looked up. Testing it reads values, and a value
that is not there leaves the condition neither true nor false. Conditions are tested in turn, only
until one is false.

Looking up comes to grief at the column before it does at the operand, and at the first comparison
of a query before the others. Testing does so in the same order, but row by row; and a comparison
with a value that is not there is an outcome of its own (`none`), which stops the conjunction just
as a false comparison does, and the query with it.
-/

namespace Tabular

/-- The right-hand side of a condition. -/
inductive Target
  | column (c : Column)
  | literal (value : String)
  deriving DecidableEq, Repr

/-- The value of a right-hand side. -/
def Target.value (sources : List Row) : Target → Option String
  | column c => c.value sources
  | literal value => some value

/-- A comparison whose columns are found. -/
structure Condition where
  column : Column
  relation : Relation
  target : Target
  deriving DecidableEq, Repr

/-- The right-hand side that an operand stands for in a query of these tables. -/
def Operand.resolve (tables : List Table) : Operand → Except Error Target
  | column title =>
    match Column.resolve tables title with
    | .ok c => .ok (.column c)
    | .error e => .error e
  | literal value => .ok (.literal value)

/-- The condition that a comparison stands for in a query of these tables. -/
def Comparison.resolve (tables : List Table) (c : Comparison) : Except Error Condition := do
  let column ← Column.resolve tables c.column
  let target ← c.operand.resolve tables
  return { column, relation := c.relation, target }

namespace Condition

/-- Whether the condition holds of rows that are looked at together. -/
def test (c : Condition) (sources : List Row) : Option Bool := do
  let left ← c.column.value sources
  let right ← c.target.value sources
  return c.relation.holds left right

/-- Whether all the conditions hold. Those after a false one are not tested. -/
def testAll : List Condition → List Row → Option Bool
  | [], _ => some true
  | c :: cs, sources =>
    match c.test sources with
    | some true => testAll cs sources
    | outcome => outcome

end Condition

end Tabular
