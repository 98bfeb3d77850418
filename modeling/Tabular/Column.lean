import Tabular.Table

/-!
# Columns of a query

A title is looked up once, in the tables of a query, and from then on stands for a place: which of
the rows that are looked at together, and which value of it. A query has a left table and perhaps a
right one; a title that both have is the left one's.

Places are looked up in tables and used in rows. A row that is narrower than the table it belongs to
has no value at some of the places, and `Column.value` says so; rows of well-formed tables have all
their values, and for them looking up once is as good as looking up each time.
-/

namespace Tabular

/-- Where a column's value stands: a place in the row of the left or of the right table. -/
inductive Binding
  | left (slot : Nat)
  | right (slot : Nat)
  deriving DecidableEq, Repr

namespace Binding

/-- Which of the rows that are looked at together. -/
def source : Binding → Nat
  | left _ => 0
  | right _ => 1

/-- Which value of that row. -/
def slot : Binding → Nat
  | left k | right k => k

end Binding

/-- A title and the place it stands for. -/
structure Column where
  title : String
  binding : Binding
  deriving DecidableEq, Repr

namespace Column

/-- The place of a title in the left table, or else in the right one. -/
def binding? (title : String) : List Table → Option Binding
  | [] => none
  | [left] => (left.slot? title).map .left
  | left :: right :: _ =>
    match left.slot? title with
    | some k => some (.left k)
    | none => (right.slot? title).map .right

/-- The column that a title stands for in a query of these tables. -/
def resolve (tables : List Table) (title : String) : Except Error Column :=
  match binding? title tables with
  | some binding => .ok { title, binding }
  | none => .error (.columnNotFound title)

/-- The value of a column in rows that are looked at together, if there is a value at its place. -/
def value (c : Column) (sources : List Row) : Option String :=
  match sources[c.binding.source]? with
  | some row => row.get? c.binding.slot
  | none => none

end Column

/-- The row that a list of columns makes of the rows that are looked at together. -/
def Row.project (columns : List Column) (sources : List Row) : Option Row :=
  (columns.mapM (Column.value · sources)).map Row.mk

end Tabular
