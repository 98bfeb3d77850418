import Tabular.Proofs.Database.Outcomes

/-!
# What holds of every database

The operations on tables make well-formed tables of well-formed ones, files are read into
well-formed tables whatever they hold, and statements put nothing else into a database
(`Database.WellFormed.run`).

A `Client` is anyone who uses the library: a database and the tables at hand. It takes one step
after the other, in any order, and the disk answers as it likes. Whatever it reaches is well-formed
(`Client.Reached.all_wellFormed`).

Well-formedness of a single table is a matter of `Table.WellFormed`, and that the operations keep it
is shown beside them, in `Table.wellFormed_of_new`, `Table.WellFormed.add` and
`Table.wellFormed_of_collect`. What is added here is that nothing else makes tables: reading a file
adds its lines one by one to a table that is new, and a statement puts into the database only what
it has made, read, or taken out and added a row to.

The steps of a client are the operations that a program can call, not only the statements of the
language. A table that was asked for stays at hand while the database goes on, and may be put back
under any name. So the invariant is about the database and the tables at hand together
(`Client.WellFormed`), and each step keeps both (`Client.WellFormed.step`).
-/

namespace Tabular

namespace Table

/-! ### Tables -/

/-- Lines that are added to a well-formed table leave it well-formed. -/
theorem WellFormed.addLines {t t' : Table} {name : String} {lines : List (Option String)}
    (ht : t.WellFormed) (h : t.addLines name lines = .ok t') : t'.WellFormed := by
  induction lines generalizing t with
  | nil =>
    cases h
    exact ht
  | cons line lines ih =>
    cases line with
    | none => cases h
    | some line =>
      rw [Table.addLines] at h
      split at h
      · next hadd => exact ih (ht.add hadd) h
      · cases h

/-- **A table read from a file is well-formed**, whatever the file holds. -/
theorem wellFormed_of_decode {name : String} {content : Text.Bytes} {t : Table}
    (h : decode name content = .ok t) : t.WellFormed := by
  unfold decode ofLines at h
  split at h
  · cases h
  · cases h
  · split at h
    · next hnew => exact (wellFormed_of_new hnew).addLines h
    · cases h

theorem wellFormed_of_load {dir name : String} {t : Table} (h : (load dir name).MayGive (.ok t)) :
    t.WellFormed := by
  obtain ⟨answer, h⟩ := h
  cases answer with
  | ok content => exact wellFormed_of_decode h.symm
  | error fault => cases fault <;> cases h

end Table

/-! ### Databases -/

/-- The table that an outcome shows, if it shows one. -/
def Output.shown? : Except Failure Output → Option Table
  | .ok (.rows t) => some t
  | _ => none

namespace Database

/-- All tables of the database are well-formed. -/
def WellFormed (db : Database) : Prop :=
  ∀ entry ∈ db.tables, entry.2.WellFormed

/-- There is nothing in an empty database that could be ill-formed. -/
theorem wellFormed_empty (dataDir : String) : (empty dataDir).WellFormed := by
  simp [WellFormed, empty]

end Database

theorem Keyed.mem_of_get? {κ α : Type} [DecidableEq κ] {entries : Keyed κ α} {key : κ} {a : α}
    (h : get? entries key = some a) : (key, a) ∈ entries := by
  induction entries with
  | nil => cases h
  | cons e rest ih =>
    rw [get?] at h
    split at h
    · next hkey =>
      obtain rfl := Option.some.inj h
      simp [← hkey]
    · exact List.mem_cons_of_mem e (ih h)

/-- After a value was put under a key, every entry is that one or was there before. -/
theorem Keyed.mem_put {κ α : Type} [DecidableEq κ] {entries : Keyed κ α} {key : κ} {a : α}
    {e : κ × α} (h : e ∈ put entries key a) : e = (key, a) ∨ e ∈ entries := by
  induction entries with
  | nil => exact .inl (List.mem_singleton.1 h)
  | cons e' rest ih =>
    rw [put] at h
    split at h
    · rcases List.mem_cons.1 h with rfl | h
      · exact .inl rfl
      · exact .inr (List.mem_cons_of_mem e' h)
    · rcases List.mem_cons.1 h with rfl | h
      · exact .inr (by simp)
      · exact (ih h).imp_right (List.mem_cons_of_mem e')

namespace Database

variable {db db' : Database} {passes : Passes}

theorem WellFormed.of_table? (hdb : db.WellFormed) {name : String} {t : Table}
    (h : db.table? name = some t) :
    t.WellFormed :=
  hdb _ (Keyed.mem_of_get? h)

/-- A well-formed table may be put into the database under any name. -/
theorem WellFormed.put (hdb : db.WellFormed) (name : String) {t : Table} (ht : t.WellFormed) :
    (db.put name t).WellFormed := by
  intro entry h
  rcases Keyed.mem_put h with rfl | h
  · exact ht
  · exact hdb entry h

/-- The result of a query is well-formed, whatever the database holds. -/
theorem wellFormed_of_select {q : Query} {t : Table} (h : db.select passes q = .ok t) :
    t.WellFormed := by
  have hselected := selected db passes q
  rw [h] at hselected
  cases hselected with
  | one hnames hfound h => exact Table.wellFormed_of_collect h
  | two hnames hfound h => exact Table.wellFormed_of_collect h

/-- What a table is created of, titles or a query, makes a well-formed table. -/
theorem wellFormed_of_make {contents : Contents} {t : Table} (h : db.make passes contents = .ok t) :
    t.WellFormed := by
  cases contents with
  | columns titles => exact Table.wellFormed_of_new (Failure.ofExcept_eq_ok_iff.1 h)
  | query q => exact wellFormed_of_select h

/-- **A statement keeps a database well-formed**, and shows a well-formed table if it shows one. -/
theorem WellFormed.run {s : Statement} {outcome : Except Failure Output} (hdb : db.WellFormed)
    (h : (db.run passes s).MayGive (outcome, db')) :
    db'.WellFormed ∧ ∀ t ∈ Output.shown? outcome, t.WellFormed := by
  -- only four statements put a table anywhere, and one shows one
  have hnone {outcome' : Except Failure Output} (hshown : Output.shown? outcome' = none) :
      ∀ t ∈ Output.shown? outcome', t.WellFormed := by simp [hshown]
  cases ran_of_run h with
  | created hmake => exact ⟨hdb.put _ (wellFormed_of_make hmake), hnone rfl⟩
  | loaded hload => exact ⟨hdb.put _ (Table.wellFormed_of_load hload), hnone rfl⟩
  | inserted ht hadd =>
    exact ⟨hdb.put _ ((hdb.of_table? (table_eq_ok_iff.1 ht)).add hadd), hnone rfl⟩
  | answered hselect =>
    refine ⟨hdb, fun t ht ↦ ?_⟩
    obtain rfl := Option.some.inj ht
    exact wellFormed_of_select hselect
  | notCreated | notLoaded | stored | notStored | notInserted | printed | notAnswered | ended
    | unknownTable =>
    exact ⟨hdb, hnone rfl⟩

/-- A statement that is written out keeps a database well-formed too, and so does a text that is
none. -/
theorem WellFormed.execute {text : String} {outcome : Except Failure Output} (hdb : db.WellFormed)
    (h : (db.execute passes text).MayGive (outcome, db')) :
    db'.WellFormed ∧ ∀ t ∈ Output.shown? outcome, t.WellFormed := by
  rw [Database.execute] at h
  split at h
  · exact hdb.run h
  · cases h
    exact ⟨hdb, by simp [Output.shown?]⟩

end Database

/-! ### Clients -/

/-- A user of the library: a database, and the tables at hand. -/
structure Client where
  database : Database
  tables : List Table

namespace Client

/-- The client with a table more at hand. -/
def keep (c : Client) (t : Table) : Client :=
  { c with tables := t :: c.tables }

/-- What a client can do. Rows are gone through in any order, and the disk may answer anything at
all. -/
inductive Step (c : Client) : Client → Prop
  | run {passes : Passes} {s : Statement} {outcome : Except Failure Output} {db : Database}
    (h : (c.database.run passes s).MayGive (outcome, db)) :
    Step c ⟨db, (Output.shown? outcome).toList ++ c.tables⟩
  | execute {passes : Passes} {text : String} {outcome : Except Failure Output} {db : Database}
    (h : (c.database.execute passes text).MayGive (outcome, db)) :
    Step c ⟨db, (Output.shown? outcome).toList ++ c.tables⟩
  | query {passes : Passes} {q : Query} {t : Table} (h : c.database.select passes q = .ok t) :
    Step c (c.keep t)
  | put (name : String) {t : Table} (ht : t ∈ c.tables) :
    Step c { c with database := c.database.put name t }
  | take {name : String} {t : Table} (h : c.database.table? name = some t) : Step c (c.keep t)
  | new {titles : List String} {t : Table} (h : Table.new titles = .ok t) : Step c (c.keep t)
  | add {t t' : Table} {row : Row} {added : Bool} (ht : t ∈ c.tables)
    (h : t.add row = .ok (added, t')) :
    Step c (c.keep t')
  | select {t t' : Table} {titles : List String} {conditions : List Condition} {order : RowOrder}
    (ht : t ∈ c.tables) (h : t.select titles conditions order = .ok t') : Step c (c.keep t')
  | join {left right t : Table} {titles : List String} {conditions : List Condition}
    {leftOrder rightOrder : RowOrder} (hleft : left ∈ c.tables) (hright : right ∈ c.tables)
    (h : left.join right titles conditions leftOrder rightOrder = .ok t) : Step c (c.keep t)
  | load {dir name : String} {t : Table} (h : (Table.load dir name).MayGive (.ok t)) :
    Step c (c.keep t)

/-- What a client can come to, beginning with a database without tables and no table at hand. -/
inductive Reached : Client → Prop
  | start (dataDir : String) : Reached ⟨.empty dataDir, []⟩
  | step {c c' : Client} (hc : Reached c) (h : Step c c') : Reached c'

/-- All tables in the database and at hand are well-formed. -/
structure WellFormed (c : Client) : Prop where
  database : c.database.WellFormed
  tables : ∀ t ∈ c.tables, t.WellFormed

variable {c c' : Client}

theorem WellFormed.keep (hc : c.WellFormed) {t : Table} (ht : t.WellFormed) :
    (c.keep t).WellFormed where
  database := hc.database
  tables := by
    intro t' ht'
    rcases List.mem_cons.1 ht' with rfl | ht'
    · exact ht
    · exact hc.tables t' ht'

/-- What a statement shows is at hand from then on. -/
theorem WellFormed.after (hc : c.WellFormed) {outcome : Except Failure Output} {db : Database}
    (h : db.WellFormed ∧ ∀ t ∈ Output.shown? outcome, t.WellFormed) :
    (⟨db, (Output.shown? outcome).toList ++ c.tables⟩ : Client).WellFormed where
  database := h.1
  tables := by
    intro t ht
    rcases List.mem_append.1 ht with ht | ht
    · exact h.2 t (Option.mem_toList.1 ht)
    · exact hc.tables t ht

/-- **Every step keeps everything well-formed.** -/
theorem WellFormed.step (hc : c.WellFormed) (h : Step c c') : c'.WellFormed := by
  cases h with
  | run h => exact hc.after (hc.database.run h)
  | execute h => exact hc.after (hc.database.execute h)
  | query h => exact hc.keep (Database.wellFormed_of_select h)
  | put name ht => exact ⟨hc.database.put name (hc.tables _ ht), hc.tables⟩
  | take h => exact hc.keep (hc.database.of_table? h)
  | new h => exact hc.keep (Table.wellFormed_of_new h)
  | add ht h => exact hc.keep ((hc.tables _ ht).add h)
  | select ht h => exact hc.keep (Table.wellFormed_of_collect h)
  | join hleft hright h => exact hc.keep (Table.wellFormed_of_collect h)
  | load h => exact hc.keep (Table.wellFormed_of_load h)

/-- Everything that a client comes to is well-formed, by induction over its steps. -/
theorem Reached.inv (hc : c.Reached) : c.WellFormed := by
  induction hc with
  | start dataDir => exact ⟨Database.wellFormed_empty dataDir, by simp⟩
  | step _ h ih => exact ih.step h

/-- **A client comes to nothing that is not well-formed**: not in the database, not among the tables
at hand, and not in what a statement shows next. -/
theorem Reached.all_wellFormed (hc : c.Reached) :
    (∀ entry ∈ c.database.tables, entry.2.WellFormed) ∧ (∀ t ∈ c.tables, t.WellFormed) ∧
      (∀ passes s t db, (c.database.run passes s).MayGive (.ok (.rows t), db) → t.WellFormed) ∧
      ∀ passes text t db, (c.database.execute passes text).MayGive (.ok (.rows t), db) →
        t.WellFormed := by
  have hwf := hc.inv
  refine ⟨hwf.database, hwf.tables, fun passes s t db h ↦ ?_, fun passes text t db h ↦ ?_⟩
  · exact (hwf.database.run h).2 t rfl
  · exact (hwf.database.execute h).2 t rfl

/-- A table is made and put into a database, and a row is inserted. -/
theorem all_wellFormed_inserted :
    let c : Client := ⟨⟨"", [("t", ⟨["a"], [⟨["x"]⟩]⟩)]⟩, [⟨["a"], []⟩]⟩
    c.Reached ∧ ∀ entry ∈ c.database.tables, entry.2.WellFormed := by
  intro c
  have hnew : Step ⟨.empty "", []⟩ ⟨.empty "", [⟨["a"], []⟩]⟩ :=
    .new (show Table.new ["a"] = _ by decide)
  have hput : Step ⟨.empty "", [⟨["a"], []⟩]⟩ ⟨⟨"", [("t", ⟨["a"], []⟩)]⟩, [⟨["a"], []⟩]⟩ :=
    .put "t" (by simp)
  have hinsert : Step ⟨⟨"", [("t", ⟨["a"], []⟩)]⟩, [⟨["a"], []⟩]⟩ c :=
    .run (show (Database.run _ .arrival (.insert "t" ["x"])).MayGive
      (.ok (.inserted "t" true), c.database) by rfl)
  have hc : c.Reached := (((Reached.start "").step hnew).step hput).step hinsert
  exact ⟨hc, (Reached.all_wellFormed hc).1⟩

end Client

end Tabular
