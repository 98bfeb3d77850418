import Tabular.Relation

/-!
# Queries and statements

What one can ask of a database, whether it was read from text or made otherwise. Titles and names of
tables are text here, as they are written, and nothing has been looked up yet. So a statement may
name tables that do not exist, and one that was made otherwise than from text may hold what no text
can spell: a list without members, or a query over more than two tables.
-/

namespace Tabular

/-- The right-hand side of a comparison: the title of another column, or a value. -/
inductive Operand
  | column (title : String)
  | literal (value : String)
  deriving DecidableEq, Repr

/-- A column compared with another column or with a value. -/
structure Comparison where
  column : String
  relation : Relation
  operand : Operand
  deriving DecidableEq, Repr

/-- The columns that a query asks for. -/
inductive Selection
  /-- The columns of the first table, then those of the second that the first does not have. -/
  | all
  | columns (titles : List String)
  deriving DecidableEq, Repr

/-- A query over one table, or over the join of two. All its comparisons must hold. -/
structure Query where
  selection : Selection
  tables : List String
  comparisons : List Comparison
  deriving DecidableEq, Repr

/-! ### Statements -/

/-- What a new table is made with. -/
inductive Contents
  /-- These columns and no row. -/
  | columns (titles : List String)
  /-- The result of a query. -/
  | query (q : Query)
  deriving DecidableEq, Repr

/-- A request to the database. -/
inductive Statement
  | create (name : String) (contents : Contents)
  | load (name : String)
  | store (name : String)
  | insert (table : String) (values : List String)
  | print (name : String)
  | select (query : Query)
  | exit
  deriving DecidableEq, Repr

end Tabular
