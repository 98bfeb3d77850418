import Tabular.Proofs.Database.Reached
import Tabular.Proofs.Table.RoundTrip

/-!
# What statements change

A statement that is refused changes nothing at all, and one that is carried out changes what it
names: one table, or one file (`Database.Effect`). This holds of every statement over every database
and every tree of files (`Database.effect_run`), well-formed or not.

`Database.Effect` has one constructor for refusals and one for each way in which a statement is
carried out, two in the case of an insertion. Each names the statement, what it answers, and the
database and the tree of files after it; whatever a constructor does not mention is as it was. "The
table of this name, and no other" is `Database.Replaced`, and "the file of this path, and no other"
is `Disk.FileTree.Written`. The latter compares the two trees at every place and not at every path,
because a path is followed through the tree and could lead elsewhere in another one.

The statements that use the disk are worked out over the tree of files first, one lemma for each
(`Database.effect_load`, `Database.effect_store`).
-/

namespace Tabular

open Disk (FileTree)
open Text (Bytes)

/-! ### Changes -/

/-- The second tree has a file with this content at the path, and differs from the first nowhere
else. -/
structure Disk.FileTree.Written (files : FileTree) (path : String) (content : Bytes)
    (files' : FileTree) : Prop where
  contentAt : files'.contentAt path = .ok content
  others : ∃ place, files.locate path = .ok place ∧ files'.get? place = some (.file content) ∧
    ∀ other, other ≠ place → files'.get? other = files.get? other

/-- A file that was written is there, and everything else is as it was. -/
theorem Disk.FileTree.written_of_write {files files' : FileTree} {path : String} {content : Bytes}
    (h : files.write path content = .ok files') : files.Written path content files' := by
  obtain ⟨place, hlocate, hplace, rfl⟩ := write_eq_ok_iff.1 h
  refine ⟨contentAt_of_write h, place, hlocate, get?_put files (names_ne_nil hplace) _, ?_⟩
  exact fun other hother ↦ get?_put_of_ne files hother _

namespace Database

variable {db : Database} {files : FileTree} {passes : Passes}

/-- The second database has this table under the name, and differs from the first in nothing
else. -/
structure Replaced (db : Database) (name : String) (t : Table) (db' : Database) : Prop where
  dataDir : db'.dataDir = db.dataDir
  table? : db'.table? name = some t
  others : ∀ other, other ≠ name → db'.table? other = db.table? other

/-- To put a table under a name replaces the table of that name and no other. -/
theorem replaced_put (db : Database) (name : String) (t : Table) :
    db.Replaced name t (db.put name t) :=
  ⟨rfl, table?_put .., fun _ hother ↦ table?_put_of_ne db hother t⟩

/-- What a statement changes in a database and in a tree of files. -/
inductive Effect (db : Database) (files : FileTree) (passes : Passes) :
    Statement → Except Failure Output → Database → FileTree → Prop
  /-- Nothing, if it is refused. -/
  | refused (s : Statement) (f : Failure) : Effect db files passes s (.error f) db files
  /-- The table of the name is new, or is another than it was. A query for its contents is one of
  the database as it was. -/
  | created {name : String} {contents : Contents} {t : Table} {db' : Database}
    (hmake : db.make passes contents = .ok t) (h : db.Replaced name t db') :
    Effect db files passes (.create name contents) (.ok (.created name)) db' files
  | loaded {name : String} {content : Bytes} {t : Table} {db' : Database}
    (hread : files.contentAt (Disk.tablePath db.dataDir name) = .ok content)
    (hdecode : Table.decode name content = .ok t) (h : db.Replaced name t db') :
    Effect db files passes (.load name) (.ok (.loaded name)) db' files
  /-- The row comes to the others of its table. -/
  | inserted {name : String} {values : List String} {t : Table} {db' : Database}
    (ht : db.table? name = some t) (hnew : ∀ r ∈ t.rows, ¬ Row.Same ⟨values⟩ r)
    (h : db.Replaced name { t with rows := t.rows ++ [⟨values⟩] } db') :
    Effect db files passes (.insert name values) (.ok (.inserted name true)) db' files
  /-- The row was there already. -/
  | insertedAgain {name : String} {values : List String} {t : Table}
    (ht : db.table? name = some t) (hold : ∃ r ∈ t.rows, Row.Same ⟨values⟩ r) :
    Effect db files passes (.insert name values) (.ok (.inserted name false)) db files
  /-- The file of the table holds its titles in one line and each of its rows in another. -/
  | stored {name : String} {t : Table} {rows : List Row} {files' : FileTree}
    (ht : db.table? name = some t) (hrows : rows.Perm t.rows)
    (h : files.Written (Disk.tablePath db.dataDir name)
      (Text.ofLines (Text.joinFields t.titles :: rows.map Row.joined)) files') :
    Effect db files passes (.store name) (.ok (.stored name)) db files'
  | printed {name : String} {t : Table} (ht : db.table? name = some t) :
    Effect db files passes (.print name) (.ok (.print name)) db files
  | answered {q : Query} {t : Table} (h : db.select passes q = .ok t) :
    Effect db files passes (.select q) (.ok (.rows t)) db files
  | ended : Effect db files passes .exit (.ok .exit) db files

/-- Loading reads the file of the name and puts the table that it holds under the name. -/
theorem effect_load (name : String) :
    Effect db files passes (.load name) (files.perform (db.run passes (.load name))).1.1
      (files.perform (db.run passes (.load name))).1.2
      (files.perform (db.run passes (.load name))).2 := by
  rw [perform_load]
  cases hload : (files.perform (Table.load db.dataDir name)).1 with
  | error e => exact .refused _ (.error e)
  | ok t =>
    rw [Table.load, FileTree.perform] at hload
    cases hread : files.contentAt (Disk.tablePath db.dataDir name) with
    | error fault =>
      rw [hread] at hload
      cases fault <;> cases hload
    | ok content =>
      rw [hread] at hload
      exact .loaded hread hload (replaced_put db name t)

/-- Storing writes the table of the name to its file: a line of titles, and a line for each row in
the order that the rows are gone through. -/
theorem effect_store (name : String) :
    Effect db files passes (.store name) (files.perform (db.run passes (.store name))).1.1
      (files.perform (db.run passes (.store name))).1.2
      (files.perform (db.run passes (.store name))).2 := by
  cases ht : db.table name with
  | error e =>
    simp only [run, ht]
    exact .refused _ (.error e)
  | ok t =>
    rw [perform_store ht, Table.save, FileTree.perform]
    cases hwrite : files.write (Disk.tablePath db.dataDir name) (t.encode passes.shown) with
    | error fault => exact .refused _ _
    | ok files' =>
      exact .stored (table_eq_ok_iff.1 ht) (passes.shown.perm t.rows)
        (FileTree.written_of_write hwrite)

/-- An insertion adds the row at the end of its table unless the same row is there. -/
theorem effect_insert (name : String) (values : List String) :
    Effect db files passes (.insert name values)
      (files.perform (db.run passes (.insert name values))).1.1
      (files.perform (db.run passes (.insert name values))).1.2
      (files.perform (db.run passes (.insert name values))).2 := by
  cases htable : db.table name with
  | error e =>
    simp only [run, htable]
    exact .refused _ (.error e)
  | ok t =>
    have ht := table_eq_ok_iff.1 htable
    cases hadd : t.add ⟨values⟩ with
    | error e =>
      simp only [run, htable, hadd]
      exact .refused _ (.error e)
    | ok result =>
      obtain ⟨new, t'⟩ := result
      simp only [run, htable, hadd]
      obtain ⟨-, ⟨rfl, hold, rfl⟩ | ⟨rfl, hnew, rfl⟩⟩ := Table.add_eq_ok_iff.1 hadd
      · -- putting back what is there is no change
        have hput : db.put name t' = db := by
          rw [put, Keyed.put_eq_self ht]
        rw [hput]
        exact .insertedAgain ht hold
      · exact .inserted ht hnew (replaced_put db name _)

/-- **Every statement is refused without a trace or changes what it names**, and nothing else. -/
theorem effect_run (db : Database) (files : FileTree) (passes : Passes) (s : Statement) :
    let after := files.perform (db.run passes s)
    Effect db files passes s after.1.1 after.1.2 after.2 := by
  intro after
  cases s with
  | create name contents =>
    cases hmake : db.make passes contents with
    | error f =>
      simp only [after, run, hmake]
      exact .refused _ f
    | ok t =>
      simp only [after, run, hmake]
      exact .created hmake (replaced_put db name t)
  | load name => exact effect_load name
  | store name => exact effect_store name
  | insert name values => exact effect_insert name values
  | print name =>
    cases htable : db.table name with
    | error e =>
      simp only [after, run, htable]
      exact .refused _ (.error e)
    | ok t =>
      simp only [after, run, htable]
      exact .printed (table_eq_ok_iff.1 htable)
  | select q =>
    cases hselect : db.select passes q with
    | error f =>
      simp only [after, run, hselect]
      exact .refused _ f
    | ok t =>
      simp only [after, run, hselect]
      exact .answered hselect
  | exit => exact .ended

end Database

end Tabular
