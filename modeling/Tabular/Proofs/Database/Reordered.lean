import Tabular.Proofs.Database.Storable
import Tabular.Proofs.Table.Reordered

/-!
# Databases whose rows are in different orders

A statement that is carried out over two databases which differ in the order of rows only, going
through them in any two ways, asks for the same of the disk and comes to the same but for the order
of rows (`Database.Reordered.run`). This holds of databases without commas and line feeds in their
titles and values, as all are that texts make (`Database.Executed.inline`).

The order of rows shows in three places: in the rows that a query answers, in the lines that a table
is stored as, and in the rows that are printed. Elsewhere it can make no difference, because tables
are sets of rows: a row is new in a table or not whichever order the others have, and what a query
finds wrong it finds in titles and comparisons.

Two runs side by side are compared by `Disk.Action.Parallel`, which says that they ask for the same
files and that whatever the disk answers to both, they go on side by side. It is shown for every
part of a statement and put together from these (`Database.Reordered.run`). Commas are left out
because rows are added as the same if their values read the same when joined: of two such rows with
different values, the one that comes first would stay.
-/

namespace Tabular

open Disk (Action)

/-! ### Entries by key -/

namespace Keyed

variable {κ α β : Type} [DecidableEq κ] {R : α → β → Prop} {entries : Keyed κ α}
  {entries' : Keyed κ β}

/-- The entries have the same keys, and what is under each is related. -/
abbrev Rel (R : α → β → Prop) : Keyed κ α → Keyed κ β → Prop :=
  List.Forall₂ fun e e' ↦ e.1 = e'.1 ∧ R e.2 e'.2

theorem rel_get? (h : Rel R entries entries') (key : κ) :
    Option.Rel R (get? entries key) (get? entries' key) := by
  induction h with
  | nil => exact .none
  | @cons e e' _ _ he _ ih =>
    rw [get?, get?, ← he.1]
    split
    · exact .some he.2
    · exact ih

theorem rel_put (h : Rel R entries entries') (key : κ) {a : α} {b : β} (hab : R a b) :
    Rel R (put entries key a) (put entries' key b) := by
  induction h with
  | nil => exact .cons ⟨rfl, hab⟩ .nil
  | @cons e e' _ _ he hrest ih =>
    rw [put, put, ← he.1]
    split
    · exact .cons ⟨rfl, hab⟩ hrest
    · exact .cons ⟨rfl, he.2⟩ ih

end Keyed

/-! ### Databases -/

/-- The outputs are the same but for the order of the rows that are shown. -/
inductive Output.Reordered : Output → Output → Prop
  | same (output : Output) : Reordered output output
  | rows {t t' : Table} (h : t.Reordered t') : Reordered (.rows t) (.rows t')

namespace Database

/-- The databases have the same directory, and tables of the same names which differ in the order of
their rows only. -/
structure Reordered (db db' : Database) : Prop where
  dataDir : db.dataDir = db'.dataDir
  tables : Keyed.Rel Table.Reordered db.tables db'.tables

/-- The outcomes are the same, and so are the databases after them, but for the order of rows. -/
def ReorderedAfter (p p' : Except Failure Output × Database) : Prop :=
  Parallel Output.Reordered p.1 p'.1 ∧ p.2.Reordered p'.2

namespace Reordered

variable {db db' : Database}

theorem refl (db : Database) : db.Reordered db :=
  ⟨rfl, List.forall₂_same.2 fun _ _ ↦ ⟨rfl, .refl _⟩⟩

/-- Under each name both databases have tables which differ in the order of their rows only, or
none. -/
theorem table? (h : db.Reordered db') (name : String) :
    Option.Rel Table.Reordered (db.table? name) (db'.table? name) :=
  Keyed.rel_get? h.tables name

/-- The same as an error or a success; the table on the left is the one of its database. -/
theorem table (h : db.Reordered db') (name : String) :
    Parallel (fun t t' ↦ db.table? name = some t ∧ t.Reordered t') (db.table name)
      (db'.table name) := by
  have hname := h.table? name
  rw [Database.table, Database.table]
  generalize db.table? name = found at hname
  generalize db'.table? name = found' at hname
  cases hname with
  | none => exact .error (Error.tableNotFound name)
  | some ht => exact .ok ⟨rfl, ht⟩

theorem put (h : db.Reordered db') (name : String) {t t' : Table} (ht : t.Reordered t') :
    (db.put name t).Reordered (db'.put name t') :=
  ⟨h.dataDir, Keyed.rel_put h.tables name ht⟩

/-- **A query has the same answer in whatever order rows are gone through.** -/
theorem select (h : db.Reordered db') (hdb : db.HoldsOnly Text.Inline) (passes passes' : Passes)
    (q : Query) : Parallel Table.Reordered (db.select passes q) (db'.select passes' q) := by
  have hplain {name : String} {t : Table} (ht : db.table? name = some t) : ∀ r ∈ t.rows, r.Plain :=
    fun r hr v hv ↦ ((hdb.of_table? ht).value r hr v hv).1
  have hfound (name : String) : Parallel (fun t t' ↦ (∀ r ∈ t.rows, r.Plain) ∧ t.Reordered t')
      (db.table name) (db'.table name) :=
    (h.table name).imp fun _ _ ht ↦ ⟨hplain ht.1, ht.2⟩
  rw [Database.select, Database.select]
  refine (Parallel.mapM hfound).ofExcept.bind fun tables tables' htables ↦ ?_
  have hsame : List.Forall₂ Table.Reordered tables tables' := htables.imp fun _ _ ht ↦ ht.2
  have hcomparisons := Comparison.resolve_congr (Column.resolve_reordered hsame)
  cases htables with
  | nil => exact .error (Failure.malformed .tableCount)
  | cons hleft htables =>
    cases htables with
    | nil =>
      simp only [hcomparisons, Selection.titles_reordered hsame]
      refine (Parallel.refl (fun _ ↦ rfl) _).bind ?_
      rintro conditions _ rfl
      refine Table.parallel_collect hsame (Table.singles_perm hleft.2 _ _)
        fun sources hsources r hr ↦ ?_
      obtain ⟨r', hr', rfl⟩ := Table.mem_singles_iff.1 hsources
      rw [List.mem_singleton.1 hr]
      exact hleft.1 r' hr'
    | cons hright htables =>
      cases htables with
      | nil =>
        simp only [hcomparisons, Selection.titles_reordered hsame]
        refine (Parallel.refl (fun _ ↦ rfl) _).bind ?_
        rintro conditions _ rfl
        rw [Table.join, Table.join, Table.agreement_reordered hleft.2 hright.2]
        refine Table.parallel_collect hsame (Table.pairs_perm hleft.2 hright.2 _ _ _ _)
          fun sources hsources r hr ↦ ?_
        obtain ⟨r', hr', s', hs', rfl⟩ := Table.mem_pairs_iff.1 hsources
        simp only [List.mem_cons, List.not_mem_nil, or_false] at hr
        rcases hr with rfl | rfl
        · exact hleft.1 r hr'
        · exact hright.1 r hs'
      | cons _ _ => exact .error (Failure.malformed .tableCount)

/-- The same table is created but for the order of its rows, or the same is wrong. -/
theorem make (h : db.Reordered db') (hdb : db.HoldsOnly Text.Inline) (passes passes' : Passes)
    (contents : Contents) :
    Parallel Table.Reordered (db.make passes contents) (db'.make passes' contents) := by
  cases contents with
  | columns titles => exact .refl .refl _
  | query q => exact h.select hdb passes passes' q

/-! ### Statements -/

/-- **A statement comes to the same but for the order of rows**, in whatever orders it goes through
them. -/
theorem run (h : db.Reordered db') (hwf : db.WellFormed) (hdb : db.HoldsOnly Text.Inline)
    (passes passes' : Passes) (s : Statement) :
    Disk.Action.Parallel ReorderedAfter (db.run passes s) (db'.run passes' s) := by
  have hrefused (f : Failure) : ReorderedAfter (.error f, db) (.error f, db') := ⟨.error f, h⟩
  have hsame (output : Output) : ReorderedAfter (.ok output, db) (.ok output, db') :=
    ⟨.ok (.same output), h⟩
  have hput (output : Output) {name : String} {t t' : Table} (ht : t.Reordered t') :
      ReorderedAfter (.ok output, db.put name t) (.ok output, db'.put name t') :=
    ⟨.ok (.same output), h.put name ht⟩
  cases s with
  | create name contents =>
    obtain ⟨f, hmake, hmake'⟩ | ⟨t, t', hmake, hmake', ht⟩ :=
      (h.make hdb passes passes' contents).error_or_ok
    · simp only [Database.run, hmake, hmake']
      exact .done (hrefused f)
    · simp only [Database.run, hmake, hmake']
      exact .done (hput _ ht)
  | load name =>
    rw [Database.run, Database.run, ← h.dataDir]
    refine (Table.parallel_load db.dataDir name).map fun loaded loaded' hloaded ↦ ?_
    cases hloaded with
    | ok ht => exact hput _ ht
    | error e => exact hrefused (.error e)
  | store name =>
    obtain ⟨e, htable, htable'⟩ | ⟨t, t', htable, htable', ht, hsame'⟩ :=
      (h.table name).error_or_ok
    · simp only [Database.run, htable, htable']
      exact .done (hrefused (.error e))
    · simp only [Database.run, htable, htable', ← h.dataDir]
      have hsave := hsame'.save (hwf.of_table? ht) (hdb.of_table? ht) passes.shown passes'.shown
        db.dataDir name
      refine hsave.map ?_
      rintro stored _ rfl
      cases stored with
      | ok _ => exact hsame (.stored name)
      | error e => exact hrefused (.error e)
  | insert name values =>
    obtain ⟨e, htable, htable'⟩ | ⟨t, t', htable, htable', -, hsame'⟩ :=
      (h.table name).error_or_ok
    · simp only [Database.run, htable, htable']
      exact .done (hrefused (.error e))
    · obtain ⟨e, hadd, hadd'⟩ | ⟨⟨new, u⟩, ⟨_, u'⟩, hadd, hadd', rfl, hu⟩ :=
        (hsame'.add ⟨values⟩).error_or_ok
      · simp only [Database.run, htable, htable', hadd, hadd']
        exact .done (hrefused (.error e))
      · simp only [Database.run, htable, htable', hadd, hadd']
        exact .done (hput _ hu)
  | print name =>
    obtain ⟨e, htable, htable'⟩ | ⟨t, t', htable, htable', -⟩ := (h.table name).error_or_ok
    · simp only [Database.run, htable, htable']
      exact .done (hrefused (.error e))
    · simp only [Database.run, htable, htable']
      exact .done (hsame (.print name))
  | select q =>
    obtain ⟨f, hselect, hselect'⟩ | ⟨t, t', hselect, hselect', ht⟩ :=
      (h.select hdb passes passes' q).error_or_ok
    · simp only [Database.run, hselect, hselect']
      exact .done (hrefused f)
    · simp only [Database.run, hselect, hselect']
      exact .done ⟨.ok (.rows ht), h⟩
  | exit => exact .done (hsame .exit)

/-- **A text comes to the same but for the order of rows**, whether it reads as a statement or not.
-/
theorem execute (h : db.Reordered db') (hwf : db.WellFormed) (hdb : db.HoldsOnly Text.Inline)
    (passes passes' : Passes) (text : String) :
    Disk.Action.Parallel ReorderedAfter (db.execute passes text) (db'.execute passes' text) := by
  rw [Database.execute, Database.execute]
  split
  · next s _ => exact h.run hwf hdb passes passes' s
  · next f _ => exact .done ⟨.error f, h⟩

end Reordered

end Database

end Tabular
