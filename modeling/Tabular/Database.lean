import Tabular.Keyed
import Tabular.Statement.Parser
import Tabular.Table.File
import Tabular.Table.Select
import Tabular.Token.Lexer

/-!
# Databases

Tables by name, and the directory that tables are stored in and loaded from. A statement is carried
out by `run`, one that is still text by `execute`; each gives what the statement produced, or why it
failed, with the database as it is then. A failing statement changes nothing.

A statement asks for one file at most, so carrying it out is an `Action`: the result, or a demand on
the disk and what follows from the answer. Queries and all that stays in memory need no disk and
give their result at once.

Rows are sets to the user, but are kept in lists. Whatever goes through rows is given an order to go
by (`Passes`), for each table of a query and for what is shown or stored; nothing else in a database
depends on the order of rows.
-/

namespace Tabular

open Disk (Action)

/-- The orders in which one statement goes through rows: those of the left and of the right table of
its query, and those of the table that is stored or shown. -/
structure Passes where
  left : RowOrder
  right : RowOrder
  shown : RowOrder

/-- Every pass in the order in which the rows came. -/
def Passes.arrival : Passes :=
  ⟨.arrival, .arrival, .arrival⟩

/-- Tables by name, each name at most once, and the directory for their files. -/
structure Database where
  dataDir : String
  tables : Keyed String Table
  deriving DecidableEq, Repr

/-- What a statement produced. -/
inductive Output
  | created (name : String)
  | loaded (name : String)
  | stored (name : String)
  /-- `added` is false if the table had the row already. -/
  | inserted (table : String) (added : Bool)
  /-- The table of this name is to be shown. -/
  | print (name : String)
  | rows (result : Table)
  | exit
  deriving DecidableEq, Repr

/-- The titles that a selection asks for in a query of these tables. -/
def Selection.titles (tables : List Table) : Selection → List String
  | columns titles => titles
  | all =>
    match tables with
    | [] => []
    | left :: rest => left.titles ++ rest.flatMap fun t ↦ t.titles.filter (· ∉ left.titles)

namespace Database

/-- A database without tables. -/
def empty (dataDir : String) : Database :=
  ⟨dataDir, []⟩

/-- The names of the tables. -/
def names (db : Database) : List String :=
  db.tables.map (·.1)

/-- The table of a name, if there is one. -/
def table? (db : Database) (name : String) : Option Table :=
  Keyed.get? db.tables name

/-- The table of a name. -/
def table (db : Database) (name : String) : Except Error Table :=
  match db.table? name with
  | some t => .ok t
  | none => .error (.tableNotFound name)

/-- The database with a table put under a name, in the place of any other of that name. -/
def put (db : Database) (name : String) (t : Table) : Database :=
  { db with tables := Keyed.put db.tables name t }

/-- A table that was put into the database is found under its name. -/
@[simp] theorem table?_put (db : Database) (name : String) (t : Table) :
    (db.put name t).table? name = some t :=
  Keyed.get?_put_self ..

/-- **Putting a table leaves those of other names alone.** -/
theorem table?_put_of_ne (db : Database) {name other : String} (h : other ≠ name) (t : Table) :
    (db.put name t).table? other = db.table? other :=
  Keyed.get?_put_of_ne _ h t

/-- The result of a query. The tables are looked up first, then the titles in the conditions, and
the titles that are asked for last. -/
def select (db : Database) (passes : Passes) (q : Query) : Except Failure Table := do
  let tables ← Failure.ofExcept (q.tables.mapM db.table)
  match tables with
  | [t] =>
    let conditions ← Failure.ofExcept (q.comparisons.mapM (·.resolve [t]))
    t.select (q.selection.titles [t]) conditions passes.left
  | [left, right] =>
    let conditions ← Failure.ofExcept (q.comparisons.mapM (·.resolve [left, right]))
    left.join right (q.selection.titles [left, right]) conditions passes.left passes.right
  | _ => .error (.malformed .tableCount)

/-- The table that a statement creates. -/
def make (db : Database) (passes : Passes) : Contents → Except Failure Table
  | .columns titles => Failure.ofExcept (Table.new titles)
  | .query q => db.select passes q

/-- Carries out a statement. -/
def run (db : Database) (passes : Passes) : Statement → Action (Except Failure Output × Database)
  | .create name contents =>
    match db.make passes contents with
    | .ok t => .done (.ok (.created name), db.put name t)
    | .error e => .done (.error e, db)
  | .load name =>
    (Table.load db.dataDir name).map fun
      | .ok t => (.ok (.loaded name), db.put name t)
      | .error e => (.error (.error e), db)
  | .store name =>
    match db.table name with
    | .error e => .done (.error (.error e), db)
    | .ok t =>
      (t.save passes.shown db.dataDir name).map fun
        | .ok () => (.ok (.stored name), db)
        | .error e => (.error (.error e), db)
  | .insert name values =>
    match db.table name with
    | .error e => .done (.error (.error e), db)
    | .ok t =>
      match t.add ⟨values⟩ with
      | .ok (added, t') => .done (.ok (.inserted name added), db.put name t')
      | .error e => .done (.error (.error e), db)
  | .print name =>
    match db.table name with
    | .ok _ => .done (.ok (.print name), db)
    | .error e => .done (.error (.error e), db)
  | .select q =>
    match db.select passes q with
    | .ok t => .done (.ok (.rows t), db)
    | .error e => .done (.error e, db)
  | .exit => .done (.ok .exit, db)

/-- Carries out a statement that is written out. -/
def execute (db : Database) (passes : Passes) (text : String) :
    Action (Except Failure Output × Database) :=
  match Token.ofText text >>= Statement.ofTokens with
  | .ok s => db.run passes s
  | .error e => .done (.error e, db)

end Database

end Tabular
