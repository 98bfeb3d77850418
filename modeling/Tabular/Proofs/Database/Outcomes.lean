import Tabular.Database
import Tabular.Disk.FileTree
import Tabular.Proofs.Table.Collect

/-!
# What queries and statements come to

`Database.Selected` and `Database.Ran` take `Database.select` and `Database.run` apart: all that a
query or a statement can come to, with what was found on the way and what the database is then.
Whatever holds of every query or of every statement is shown case by case of these
(`Database.selected`, `Database.ran_of_run`), and nothing else looks into the definitions.

What a statement comes to depends on the disk, which may answer anything (`Disk.Action.MayGive`).

A computation that reads and writes files is data (`Disk.Action`), and there are two ways to look at
it. `Disk.Action.MayGive` leaves the answers of the disk open, which is what statements about errors
and invariants need. `Disk.FileTree.perform` answers out of a given tree of files and keeps what is
written, and `Disk.FileTree.mayGive_perform` connects the two. For theorems that say over which
files a statement is refused, `Database.Refuses` tells the reasons in terms of the tree.

## What the cases leave out

`Database.Ran` does not say over which answers of the disk a statement is refused, only that the
disk can answer so; a table that cannot be written is refused with some fault, and the case does not
tell which. Where the fault matters there are `Database.perform_load` and `Database.perform_store`,
over a given tree of files.
-/

namespace Tabular

open Disk (Action FileTree)

/-! ### The disk -/

/-- The results that a computation may come to, depending on the disk. -/
def Disk.Action.MayGive {α : Type} : Action α → α → Prop
  | .done result, a => a = result
  | .read _ next, a => ∃ answer, a = next answer
  | .write _ _ next, a => ∃ answer, a = next answer

/-- What may come of a computation when a function is applied to its result. -/
theorem Disk.Action.mayGive_map_iff {α β : Type} {f : α → β} {x : Action α} {b : β} :
    (x.map f).MayGive b ↔ ∃ a, x.MayGive a ∧ b = f a := by
  cases x with
  | done result => simp [map, MayGive]
  | read path next =>
    constructor
    · rintro ⟨answer, rfl⟩
      exact ⟨_, ⟨answer, rfl⟩, rfl⟩
    · rintro ⟨_, ⟨answer, rfl⟩, rfl⟩
      exact ⟨answer, rfl⟩
  | write path content next =>
    constructor
    · rintro ⟨answer, rfl⟩
      exact ⟨_, ⟨answer, rfl⟩, rfl⟩
    · rintro ⟨_, ⟨answer, rfl⟩, rfl⟩
      exact ⟨answer, rfl⟩

/-- A tree of files answers in one of the ways a disk may. -/
theorem Disk.FileTree.mayGive_perform {α : Type} (files : FileTree) (x : Action α) :
    x.MayGive (files.perform x).1 := by
  cases x with
  | done result => rfl
  | read path next => exact ⟨_, rfl⟩
  | write path content next =>
    rw [perform]
    split <;> exact ⟨_, rfl⟩

/-- A function of the result makes no difference to the files. -/
theorem Disk.FileTree.perform_map {α β : Type} (files : FileTree) (f : α → β) (x : Action α) :
    files.perform (x.map f) = (f (files.perform x).1, (files.perform x).2) := by
  cases x with
  | done result => rfl
  | read path next => rfl
  | write path content next =>
    simp only [Action.map, perform]
    split <;> rfl

/-! ### Queries -/

/-- The conditions for each comparison of a query. -/
abbrev Found (tables : List Table) (comparisons : List Comparison) (conditions : List Condition) :
    Prop :=
  List.Forall₂ (fun comparison c ↦ Comparison.resolve tables comparison = .ok c)
    comparisons conditions

namespace Database

variable {db db' : Database} {passes : Passes}

/-- A name leads to the table that is under it. -/
theorem table_eq_ok_iff {name : String} {t : Table} :
    db.table name = .ok t ↔ db.table? name = some t := by
  unfold table
  cases db.table? name <;> simp

/-- A name under which there is no table is refused, and the error shows the name. -/
theorem table_eq_error_iff {name : String} {e : Error} :
    db.table name = .error e ↔ db.table? name = none ∧ e = .tableNotFound name := by
  unfold table
  cases db.table? name <;> simp [eq_comm]

theorem mapM_table_eq_ok_iff {names : List String} {tables : List Table} :
    names.mapM db.table = .ok tables ↔ names.map db.table? = tables.map some := by
  rw [mapM_eq_ok_iff, ← List.forall₂_eq_eq_eq, List.forall₂_map_left_iff,
    List.forall₂_map_right_iff]
  simp only [table_eq_ok_iff]

/-- What a query comes to: a selection from one table, a join of two, or a refusal before anything
is looked at. -/
inductive Selected (db : Database) (passes : Passes) (q : Query) : Except Failure Table → Prop
  | one {A : Table} {conditions : List Condition} {result : Except Failure Table}
    (hnames : q.tables.map db.table? = [some A]) (hfound : Found [A] q.comparisons conditions)
    (h : A.select (q.selection.titles [A]) conditions passes.left = result) :
    Selected db passes q result
  | two {A B : Table} {conditions : List Condition} {result : Except Failure Table}
    (hnames : q.tables.map db.table? = [some A, some B])
    (hfound : Found [A, B] q.comparisons conditions)
    (h : A.join B (q.selection.titles [A, B]) conditions passes.left passes.right = result) :
    Selected db passes q result
  | unknownTable {name : String} {e : Error} (h : db.table name = .error e) :
    Selected db passes q (.error (.error e))
  | unknownColumn {tables : List Table} {comparison : Comparison} {e : Error}
    (h : comparison.resolve tables = .error e) : Selected db passes q (.error (.error e))
  | tableCount : Selected db passes q (.error (.malformed .tableCount))

/-- **All that a query can come to.** -/
theorem selected (db : Database) (passes : Passes) (q : Query) :
    Selected db passes q (db.select passes q) := by
  rw [select]
  cases htables : q.tables.mapM db.table with
  | error e =>
    obtain ⟨name, -, hname⟩ := exists_mem_of_mapM_eq_error htables
    exact .unknownTable hname
  | ok tables =>
    have hnames := mapM_table_eq_ok_iff.1 htables
    match tables, hnames with
    | [], _ => exact .tableCount
    | [A], hnames =>
      show Selected db passes q (Failure.ofExcept (q.comparisons.mapM (·.resolve [A])) >>= _)
      cases hconditions : q.comparisons.mapM (·.resolve [A]) with
      | error e =>
        obtain ⟨comparison, -, hcomparison⟩ := exists_mem_of_mapM_eq_error hconditions
        exact .unknownColumn hcomparison
      | ok conditions => exact .one hnames (mapM_eq_ok_iff.1 hconditions) rfl
    | [A, B], hnames =>
      show Selected db passes q (Failure.ofExcept (q.comparisons.mapM (·.resolve [A, B])) >>= _)
      cases hconditions : q.comparisons.mapM (·.resolve [A, B]) with
      | error e =>
        obtain ⟨comparison, -, hcomparison⟩ := exists_mem_of_mapM_eq_error hconditions
        exact .unknownColumn hcomparison
      | ok conditions => exact .two hnames (mapM_eq_ok_iff.1 hconditions) rfl
    | _ :: _ :: _ :: _, _ => exact .tableCount

/-! ### Statements -/

/-- What a statement comes to, and the database after it. -/
inductive Ran (db : Database) (passes : Passes) :
    Statement → Except Failure Output → Database → Prop
  | created {name : String} {contents : Contents} {t : Table}
    (h : db.make passes contents = .ok t) :
    Ran db passes (.create name contents) (.ok (.created name)) (db.put name t)
  | notCreated {name : String} {contents : Contents} {f : Failure}
    (h : db.make passes contents = .error f) :
    Ran db passes (.create name contents) (.error f) db
  | loaded {name : String} {t : Table} (h : (Table.load db.dataDir name).MayGive (.ok t)) :
    Ran db passes (.load name) (.ok (.loaded name)) (db.put name t)
  | notLoaded {name : String} {e : Error} (h : (Table.load db.dataDir name).MayGive (.error e)) :
    Ran db passes (.load name) (.error (.error e)) db
  | stored {name : String} {t : Table} (ht : db.table name = .ok t) :
    Ran db passes (.store name) (.ok (.stored name)) db
  | notStored {name : String} {t : Table} {fault : Disk.Fault} (ht : db.table name = .ok t) :
    Ran db passes (.store name) (.error (.error (.storage (.writing name fault)))) db
  | inserted {name : String} {values : List String} {t t' : Table} {added : Bool}
    (ht : db.table name = .ok t) (h : t.add ⟨values⟩ = .ok (added, t')) :
    Ran db passes (.insert name values) (.ok (.inserted name added)) (db.put name t')
  | notInserted {name : String} {values : List String} {t : Table} {e : Error}
    (ht : db.table name = .ok t)
    (h : t.add ⟨values⟩ = .error e) : Ran db passes (.insert name values) (.error (.error e)) db
  | printed {name : String} {t : Table} (ht : db.table name = .ok t) :
    Ran db passes (.print name) (.ok (.print name)) db
  | answered {q : Query} {t : Table} (h : db.select passes q = .ok t) :
    Ran db passes (.select q) (.ok (.rows t)) db
  | notAnswered {q : Query} {f : Failure} (h : db.select passes q = .error f) :
    Ran db passes (.select q) (.error f) db
  | ended : Ran db passes .exit (.ok .exit) db
  | unknownTable {s : Statement} {name : String} {e : Error} (h : db.table name = .error e)
    (hs : s = .store name ∨ (∃ values, s = .insert name values) ∨ s = .print name) :
    Ran db passes s (.error (.error e)) db

/-- **All that a statement can come to.** -/
theorem ran_of_run {s : Statement} {outcome : Except Failure Output}
    (h : (db.run passes s).MayGive (outcome, db')) : Ran db passes s outcome db' := by
  cases s with
  | create name contents =>
    rw [run] at h
    split at h
    · next hmake =>
      cases h
      exact .created hmake
    · next hmake =>
      cases h
      exact .notCreated hmake
  | load name =>
    rw [run] at h
    obtain ⟨loaded, hload, h⟩ := Disk.Action.mayGive_map_iff.1 h
    cases loaded with
    | ok t =>
      cases h
      exact .loaded hload
    | error e =>
      cases h
      exact .notLoaded hload
  | store name =>
    rw [run] at h
    split at h
    · next htable =>
      cases h
      exact .unknownTable htable (.inl rfl)
    · next htable =>
      obtain ⟨stored, ⟨answer, rfl⟩, h⟩ := Disk.Action.mayGive_map_iff.1 h
      cases answer with
      | ok _ =>
        cases h
        exact .stored htable
      | error fault =>
        cases h
        exact .notStored htable
  | insert name values =>
    rw [run] at h
    split at h
    · next htable =>
      cases h
      exact .unknownTable htable (.inr (.inl ⟨values, rfl⟩))
    · next htable =>
      split at h
      · next hadd =>
        cases h
        exact .inserted htable hadd
      · next hadd =>
        cases h
        exact .notInserted htable hadd
  | print name =>
    rw [run] at h
    split at h
    · next htable =>
      cases h
      exact .printed htable
    · next htable =>
      cases h
      exact .unknownTable htable (.inr (.inr rfl))
  | select q =>
    rw [run] at h
    split at h
    · next hselect =>
      cases h
      exact .answered hselect
    · next hselect =>
      cases h
      exact .notAnswered hselect
  | exit =>
    cases h
    exact .ended

/-! ### Loading and storing over a tree of files -/

/-- Loading over a tree of files, as what is done with the table that was read or not. -/
theorem perform_load (files : FileTree) (name : String) :
    files.perform (db.run passes (.load name)) =
      (match (files.perform (Table.load db.dataDir name)).1 with
        | .ok t => (.ok (.loaded name), db.put name t)
        | .error e => (.error (.error e), db),
      files) := by
  rw [run]
  exact FileTree.perform_map files _ (Table.load db.dataDir name)

/-- Storing over a tree of files, as what is done after the file was written or not. -/
theorem perform_store {name : String} {t : Table} (ht : db.table name = .ok t) (files : FileTree) :
    files.perform (db.run passes (.store name)) =
      (match (files.perform (t.save passes.shown db.dataDir name)).1 with
        | .ok () => (.ok (.stored name), db)
        | .error e => (.error (.error e), db),
      (files.perform (t.save passes.shown db.dataDir name)).2) := by
  simp only [run, ht]
  exact FileTree.perform_map files _ (t.save passes.shown db.dataDir name)

/-- What is in the way of a statement, over a database and a tree of files. -/
inductive Refuses (db : Database) (files : FileTree) (passes : Passes) : Statement → Error → Prop
  | create {name : String} {contents : Contents} {e : Error}
    (h : db.make passes contents = .error (.error e)) :
    Refuses db files passes (.create name contents) e
  | load {name : String} {e : Error}
    (h : (files.perform (Table.load db.dataDir name)).1 = .error e) :
    Refuses db files passes (.load name) e
  | store {name : String} {t : Table} {e : Error} (ht : db.table? name = some t)
    (h : (files.perform (t.save passes.shown db.dataDir name)).1 = .error e) :
    Refuses db files passes (.store name) e
  | insert {name : String} {values : List String} {t : Table} {e : Error}
    (ht : db.table? name = some t) (h : t.add ⟨values⟩ = .error e) :
    Refuses db files passes (.insert name values) e
  | select {q : Query} {e : Error} (h : db.select passes q = .error (.error e)) :
    Refuses db files passes (.select q) e
  | unknownTable {s : Statement} {name : String} (h : db.table? name = none)
    (hs : s = .store name ∨ (∃ values, s = .insert name values) ∨ s = .print name) :
    Refuses db files passes s (.tableNotFound name)

/-- **A statement is refused for what is in its way**, over the files as they are, and leaves the
database alone. -/
theorem refuses_of_run {files : FileTree} {s : Statement} {e : Error}
    (h : (files.perform (db.run passes s)).1 = (.error (.error e), db')) :
    db.Refuses files passes s e ∧ db' = db := by
  have hran : Ran db passes s (.error (.error e)) db' :=
    ran_of_run (h ▸ files.mayGive_perform (db.run passes s))
  cases hran with
  | notCreated hmake => exact ⟨.create hmake, rfl⟩
  | @notLoaded name =>
    -- that some disk may refuse to load says nothing of these files
    rw [perform_load] at h
    cases hload : (files.perform (Table.load db.dataDir name)).1 with
    | ok t =>
      rw [hload] at h
      cases h
    | error e' =>
      rw [hload] at h
      cases h
      exact ⟨.load hload, rfl⟩
  | @notStored name t fault ht =>
    rw [perform_store ht] at h
    cases hsave : (files.perform (t.save passes.shown db.dataDir name)).1 with
    | ok _ =>
      rw [hsave] at h
      cases h
    | error e' =>
      rw [hsave] at h
      cases h
      exact ⟨.store (table_eq_ok_iff.1 ht) hsave, rfl⟩
  | notInserted ht hadd => exact ⟨.insert (table_eq_ok_iff.1 ht) hadd, rfl⟩
  | notAnswered hselect => exact ⟨.select hselect, rfl⟩
  | unknownTable htable hs =>
    obtain ⟨hnone, rfl⟩ := table_eq_error_iff.1 htable
    exact ⟨.unknownTable hnone hs, rfl⟩

end Database

end Tabular
