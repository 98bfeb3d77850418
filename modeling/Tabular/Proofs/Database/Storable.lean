import Tabular.Proofs.Query.Answer
import Tabular.Proofs.Statement.Given
import Tabular.Proofs.Table.Texts

/-!
# What texts put into a database

A database that is filled by texts alone (`Database.Executed`) holds the titles and the values that
were written in those texts, and fields of the files that were loaded. None of them holds a comma or
a line feed, whatever the files hold, and none holds a carriage return unless a file does
(`Database.Executed.holdsOnly`). But a carriage return that was read within a line may come to stand
at the end of a row, since a query puts columns into any order. Of all that makes a table storable,
this is the only thing that can be missing (`Database.Executed.load_store`).

Where a text in the database comes from is followed with one property `P` of texts for all
(`Database.HoldsOnly`). Statements make up no texts: queries copy values from one table to another,
and only `create`, `insert` and `load` bring anything in (`Database.HoldsOnly.run`). With `P` for
"neither comma nor line feed" and for "no carriage return" the theorem is used twice, since files
can break the second and not the first.

To speak of the files that were read, the results of a computation are related to their contents
(`Disk.Action.Gives`). A computation that comes to a result comes to it with some contents, and the
other way round, so nothing is lost by this (`Disk.Action.exists_gives`).

## Loading into another database

Loading looks at the directory of a database and at nothing else in it, and replaces the table of
the name if there is one. So it can be said of any database over the same directory whether it loads
a table back (`Database.loadsBack_iff`), and the statement is about a file in the end.
-/

namespace Tabular

open Disk (Action FileTree)
open Text (Bytes)

/-! ### What is read for a result -/

/-- The results that a computation may come to, each with the contents of files that were read for
it. -/
inductive Disk.Action.Gives {α : Type} : Action α → List Bytes → α → Prop
  | done (result : α) : Gives (.done result) [] result
  | read {path : String} {next : Except Disk.Fault Bytes → α} (content : Bytes) :
    Gives (.read path next) [content] (next (.ok content))
  | unread {path : String} {next : Except Disk.Fault Bytes → α} (fault : Disk.Fault) :
    Gives (.read path next) [] (next (.error fault))
  | write {path : String} {content : Bytes} {next : Except Disk.Fault Unit → α}
    (answer : Except Disk.Fault Unit) : Gives (.write path content next) [] (next answer)

namespace Disk.Action

variable {α β : Type} {x : Action α} {reads : List Bytes}

theorem Gives.mayGive {a : α} (h : x.Gives reads a) : x.MayGive a := by
  cases h with
  | done => rfl
  | read content => exact ⟨.ok content, rfl⟩
  | unread fault => exact ⟨.error fault, rfl⟩
  | write answer => exact ⟨answer, rfl⟩

theorem gives_map_iff {f : α → β} {b : β} :
    (x.map f).Gives reads b ↔ ∃ a, x.Gives reads a ∧ b = f a := by
  constructor
  · intro h
    cases x with
    | done result =>
      cases h
      exact ⟨_, .done result, rfl⟩
    | read path next =>
      cases h with
      | read content => exact ⟨_, .read content, rfl⟩
      | unread fault => exact ⟨_, .unread fault, rfl⟩
    | write path content next =>
      cases h with
      | write answer => exact ⟨_, .write answer, rfl⟩
  · rintro ⟨a, h, rfl⟩
    cases h with
    | done => exact .done (f a)
    | read content => exact .read content
    | unread fault => exact .unread fault
    | write answer => exact .write answer

/-- Whatever may come of a computation comes with what was read for it. -/
theorem exists_gives {a : α} (h : x.MayGive a) : ∃ reads, x.Gives reads a := by
  cases x with
  | done result =>
    obtain rfl : a = result := h
    exact ⟨[], .done a⟩
  | read path next =>
    obtain ⟨answer, rfl⟩ := h
    cases answer with
    | ok content => exact ⟨[content], .read content⟩
    | error fault => exact ⟨[], .unread fault⟩
  | write path content next =>
    obtain ⟨answer, rfl⟩ := h
    exact ⟨[], .write answer⟩

end Disk.Action

/-- A table that is loaded is what was read. -/
theorem Table.eq_of_load_gives {dir name : String} {reads : List Bytes} {t : Table}
    (h : (load dir name).Gives reads (.ok t)) :
    ∃ content ∈ reads, decode name content = .ok t := by
  generalize hresult : (.ok t : Except Error Table) = result at h
  cases h with
  | read content => exact ⟨content, by simp, rfl⟩
  | unread fault => cases fault <;> cases hresult

namespace Database

variable {P : String → Prop} {db db' : Database} {passes : Passes}

/-! ### Texts in databases -/

/-- Every title and every value in the database has the property. -/
def HoldsOnly (P : String → Prop) (db : Database) : Prop :=
  ∀ entry ∈ db.tables, entry.2.HoldsOnly P

theorem HoldsOnly.of_table? (hdb : db.HoldsOnly P) {name : String} {t : Table}
    (h : db.table? name = some t) : t.HoldsOnly P :=
  hdb _ (Keyed.mem_of_get? h)

theorem HoldsOnly.put (hdb : db.HoldsOnly P) (name : String) {t : Table} (ht : t.HoldsOnly P) :
    (db.put name t).HoldsOnly P := by
  intro entry h
  rcases Keyed.mem_put h with rfl | h
  · exact ht
  · exact hdb entry h

theorem HoldsOnly.of_map_table? (hdb : db.HoldsOnly P) {names : List String} {tables : List Table}
    (h : names.map db.table? = tables.map some) : ∀ t ∈ tables, t.HoldsOnly P := by
  intro t ht
  have hmem : some t ∈ names.map db.table? := h ▸ List.mem_map_of_mem ht
  obtain ⟨name, -, hname⟩ := List.mem_map.1 hmem
  exact hdb.of_table? hname

/-- A query makes up no texts. -/
theorem HoldsOnly.select (hdb : db.HoldsOnly P) {q : Query} {t : Table}
    (h : db.select passes q = .ok t) : t.HoldsOnly P := by
  have hselected := selected db passes q
  rw [h] at hselected
  cases hselected with
  | @one A conditions _ hnames hfound h =>
    have htables : ∀ t ∈ [A], t.HoldsOnly P := hdb.of_map_table? hnames
    refine Table.holdsOnly_of_collect h htables fun sources hsources r hr v hv ↦ ?_
    obtain ⟨r', hr', rfl⟩ := Table.mem_singles_iff.1 hsources
    rw [List.mem_singleton.1 hr] at hv
    exact (htables A (by simp)).value r' hr' v hv
  | @two A B conditions _ hnames hfound h =>
    have htables : ∀ t ∈ [A, B], t.HoldsOnly P := hdb.of_map_table? hnames
    refine Table.holdsOnly_of_collect h htables fun sources hsources r hr v hv ↦ ?_
    obtain ⟨r', hr', s', hs', rfl⟩ := Table.mem_pairs_iff.1 hsources
    simp only [List.mem_cons, List.not_mem_nil, or_false] at hr
    rcases hr with rfl | rfl
    · exact (htables A (by simp)).value r hr' v hv
    · exact (htables B (by simp)).value r hs' v hv

/-- What a table is created of is in the statement or in the database. -/
theorem HoldsOnly.make (hdb : db.HoldsOnly P) {name : String} {contents : Contents} {t : Table}
    (hgiven : ∀ text ∈ (Statement.create name contents).given, P text)
    (h : db.make passes contents = .ok t) : t.HoldsOnly P := by
  cases contents with
  | columns titles => exact Table.holdsOnly_of_new (Failure.ofExcept_eq_ok_iff.1 h) hgiven
  | query q => exact hdb.select h

/-- **A statement puts into a database what it is given and what is read for it.** -/
theorem HoldsOnly.run (hdb : db.HoldsOnly P) {s : Statement} {outcome : Except Failure Output}
    {reads : List Bytes} (hgiven : ∀ text ∈ s.given, P text)
    (hreads : ∀ content ∈ reads, ∀ name t, Table.decode name content = .ok t → t.HoldsOnly P)
    (h : (db.run passes s).Gives reads (outcome, db')) : db'.HoldsOnly P := by
  cases ran_of_run h.mayGive with
  | created hmake => exact hdb.put _ (hdb.make hgiven hmake)
  | @loaded name t hload =>
    -- the table is the one that was read
    rw [Database.run] at h
    obtain ⟨loaded, hgives, heq⟩ := Disk.Action.gives_map_iff.1 h
    cases loaded with
    | error e => cases heq
    | ok t' =>
      rw [(Prod.mk.inj heq).2]
      obtain ⟨content, hcontent, hdecode⟩ := Table.eq_of_load_gives hgives
      exact hdb.put name (hreads content hcontent name t' hdecode)
  | inserted ht hadd =>
    exact hdb.put _ ((hdb.of_table? (table_eq_ok_iff.1 ht)).add hgiven hadd)
  | notCreated | notLoaded | stored | notStored | notInserted | printed | answered | notAnswered
    | ended | unknownTable => exact hdb

/-- **A text puts no separator into a database**, but files may. -/
theorem HoldsOnly.execute (hdb : db.HoldsOnly P) {text : String} {outcome : Except Failure Output}
    {reads : List Bytes} (hP : ∀ s : String, (∀ c ∈ s.toList, isSeparator c = false) → P s)
    (hreads : ∀ content ∈ reads, ∀ name t, Table.decode name content = .ok t → t.HoldsOnly P)
    (h : (db.execute passes text).Gives reads (outcome, db')) : db'.HoldsOnly P := by
  rw [Database.execute] at h
  split at h
  · next s hs =>
    exact hdb.run (fun given hgiven ↦ hP given (Statement.given_ofText hs hgiven)) hreads h
  · cases h
    exact hdb

/-! ### Databases that are filled by texts -/

/-- What texts make of an empty database, one after the other, with the contents of all files that
were read on the way. The disk may answer anything at any time. -/
inductive Executed (dataDir : String) : List Bytes → Database → Prop
  | empty : Executed dataDir [] (.empty dataDir)
  | execute {reads more : List Bytes} {db db' : Database} {passes : Passes} {text : String}
    {outcome : Except Failure Output} (hdb : Executed dataDir reads db)
    (h : (db.execute passes text).Gives more (outcome, db')) :
    Executed dataDir (reads ++ more) db'

namespace Executed

variable {dataDir : String} {reads : List Bytes}

/-- Every database that is filled by texts is well-formed, whatever was on the disk. -/
theorem wellFormed (h : Executed dataDir reads db) : db.WellFormed := by
  induction h with
  | empty => exact wellFormed_empty dataDir
  | execute _ h ih => exact (ih.execute h.mayGive).1

/-- **What texts put into a database has every property that texts without separators have** and
that all fields of the files have. -/
theorem holdsOnly (h : Executed dataDir reads db)
    (hP : ∀ s : String, (∀ c ∈ s.toList, isSeparator c = false) → P s)
    (hreads : ∀ content ∈ reads, ∀ name t, Table.decode name content = .ok t → t.HoldsOnly P) :
    db.HoldsOnly P := by
  induction h with
  | empty => simp [HoldsOnly, Database.empty]
  | execute _ h ih =>
    rw [List.forall_mem_append] at hreads
    exact (ih hreads.1).execute hP hreads.2 h

/-- Neither a comma nor a line feed comes in. -/
theorem inline (h : Executed dataDir reads db) : db.HoldsOnly Text.Inline := by
  refine h.holdsOnly (fun s hs ↦ ⟨fun hmem ↦ ?_, fun hmem ↦ ?_⟩)
    fun content _ name t hdecode ↦ Table.inline_of_decode hdecode
  · exact absurd (hs _ hmem) (by decide)
  · exact absurd (hs _ hmem) (by decide)

/-- A carriage return comes in from a file only. -/
theorem cr_not_mem (h : Executed dataDir reads db) (hcr : ∀ content ∈ reads, Text.cr ∉ content) :
    db.HoldsOnly fun s ↦ '\r' ∉ s.toList := by
  refine h.holdsOnly (fun s hs hmem ↦ ?_)
    fun content hcontent name t hdecode ↦ Table.cr_not_mem_of_decode hdecode (hcr content hcontent)
  exact absurd (hs _ hmem) (by decide)

end Executed

/-! ### Storing and loading -/

variable {files : FileTree} {name : String} {t : Table}

/-- Loading the name into the database succeeds and puts the same table there. -/
def LoadsBack (db : Database) (passes : Passes) (files : FileTree) (name : String) (t : Table) :
    Prop :=
  ∃ db' t', (files.perform (db.run passes (.load name))).1 = (.ok (.loaded name), db') ∧
    db'.table? name = some t' ∧ t'.SameAs t

/-- Whether a table is loaded back is a matter of the file alone. -/
theorem loadsBack_iff : db.LoadsBack passes files name t ↔
    ∃ t', (files.perform (Table.load db.dataDir name)).1 = .ok t' ∧ t'.SameAs t := by
  rw [LoadsBack, perform_load]
  cases (files.perform (Table.load db.dataDir name)).1 with
  | error e => simp
  | ok loaded =>
    constructor
    · rintro ⟨db', t', hrun, htable, hsame⟩
      cases hrun
      rw [table?_put] at htable
      cases htable
      exact ⟨_, rfl, hsame⟩
    · rintro ⟨t', hload, hsame⟩
      cases hload
      exact ⟨_, _, rfl, table?_put .., hsame⟩

/-- A table that is stored is written to its file. -/
theorem save_of_store (ht : db.table? name = some t)
    (h : (files.perform (db.run passes (.store name))).1.1 = .ok (.stored name)) :
    (files.perform (t.save passes.shown db.dataDir name)).1 = .ok () := by
  rw [perform_store (table_eq_ok_iff.2 ht)] at h
  cases hsave : (files.perform (t.save passes.shown db.dataDir name)).1 with
  | ok _ => rfl
  | error e =>
    rw [hsave] at h
    cases h

/-- **What texts put into a database can be stored and loaded**, up to carriage returns at line
ends. No title and no value holds a comma or a line feed, so rows are the same only if they agree
value by value. A table that was stored is loaded, into any database over the same directory, as the
table that it was, exactly if no line of its file ends in a carriage return; so it always is if no
file that was read held one. -/
theorem Executed.load_store {dataDir : String} {reads : List Bytes}
    (h : Executed dataDir reads db) :
    (∀ entry ∈ db.tables,
      (∀ title ∈ entry.2.titles, ',' ∉ title.toList ∧ '\n' ∉ title.toList) ∧
      (∀ r ∈ entry.2.rows, ∀ v ∈ r.values, ',' ∉ v.toList ∧ '\n' ∉ v.toList) ∧
      ∀ r ∈ entry.2.rows, ∀ s ∈ entry.2.rows, r.Same s ↔ r.values = s.values) ∧
    ∀ (name : String) (t : Table) (files : FileTree) (passes : Passes), db.table? name = some t →
      (files.perform (db.run passes (.store name))).1.1 = .ok (.stored name) →
      ∀ (other : Database) (passes' : Passes), other.dataDir = db.dataDir →
        (other.LoadsBack passes' (files.perform (db.run passes (.store name))).2 name t ↔
          t.EndsPlainly) ∧
        ((∀ content ∈ reads, Text.cr ∉ content) →
          other.LoadsBack passes' (files.perform (db.run passes (.store name))).2 name t) := by
  have hwf := h.wellFormed
  have hinline := h.inline
  refine ⟨fun entry hentry ↦ ⟨(hinline entry hentry).title, (hinline entry hentry).value, ?_⟩, ?_⟩
  · intro r hr s hs
    refine ⟨fun hsame ↦ ?_, fun heq ↦ congrArg Text.joinFields heq⟩
    have hwidth := ((hwf entry hentry).width_eq r hr).trans ((hwf entry hentry).width_eq s hs).symm
    rw [hsame.eq_of_width hwidth (fun v hv ↦ ((hinline entry hentry).value r hr v hv).1)
      fun v hv ↦ ((hinline entry hentry).value s hs v hv).1]
  · intro name t files passes ht hstored other passes' hdir
    have hsave := save_of_store ht hstored
    have hfiles : (files.perform (db.run passes (.store name))).2 =
        (files.perform (t.save passes.shown db.dataDir name)).2 := by
      rw [perform_store (table_eq_ok_iff.2 ht)]
    have hback : other.LoadsBack passes' (files.perform (db.run passes (.store name))).2 name t ↔
        t.EndsPlainly := by
      rw [loadsBack_iff, hfiles, hdir, Table.perform_load_of_save hsave]
      exact Table.decode_encode_iff_endsPlainly (hwf.of_table? ht) (hinline.of_table? ht)
    refine ⟨hback, fun hcr ↦ hback.2 ?_⟩
    exact ((h.cr_not_mem hcr).of_table? ht).endsPlainly

/-- A carriage return inside a line does no harm until a query puts it at the end. -/
theorem load_store_reordered :
    let content := Text.utf8 "a,b\nx\r,y\n"
    let s : Table := ⟨["a", "b"], [⟨["x\r", "y"]⟩]⟩
    let t : Table := ⟨["b", "a"], [⟨["y", "x\r"]⟩]⟩
    let db : Database := ⟨"", [("s", s), ("t", t)]⟩
    Executed "" [content] db ∧ ∀ (other : Database) (passes : Passes), other.dataDir = "" →
      other.LoadsBack passes (FileTree.empty.perform (db.run .arrival (.store "s"))).2 "s" s ∧
      ¬ other.LoadsBack passes (FileTree.empty.perform (db.run .arrival (.store "t"))).2 "t" t := by
  intro content s t db
  have hdecode : Table.decode "s" content = .ok s := by decide +kernel
  have hload : Executed "" [content] ⟨"", [("s", s)]⟩ := by
    have hread : Token.ofText "load s;" >>= Statement.ofTokens = .ok (.load "s") := by
      decide +kernel
    have hgives : (Table.load "" "s").Gives [content] (.ok s) := by
      rw [← hdecode]
      exact .read content
    have hexecute : ((Database.empty "").execute .arrival "load s;").Gives [content]
        (.ok (.loaded "s"), (Database.empty "").put "s" s) := by
      rw [Database.execute, hread]
      show ((Database.empty "").run .arrival (.load "s")).Gives _ _
      rw [Database.run]
      exact Disk.Action.gives_map_iff.2 ⟨_, hgives, rfl⟩
    exact .execute .empty hexecute
  have hdb : Executed "" ([content] ++ []) db := by
    have hread : Token.ofText "create table t as select b, a from s;" >>= Statement.ofTokens =
        .ok (.create "t" (.query ⟨.columns ["b", "a"], ["s"], []⟩)) := by
      decide +kernel
    have hselect : (⟨"", [("s", s)]⟩ : Database).select .arrival
        ⟨.columns ["b", "a"], ["s"], []⟩ = .ok t := by
      decide +kernel
    have hexecute : ((⟨"", [("s", s)]⟩ : Database).execute .arrival
        "create table t as select b, a from s;").Gives [] (.ok (.created "t"), db) := by
      rw [Database.execute, hread]
      simp only [Database.run, Database.make, hselect]
      exact .done _
    exact .execute hload hexecute
  refine ⟨hdb, fun other passes hdir ↦ ⟨?_, ?_⟩⟩
  · refine ((hdb.load_store.2 "s" s .empty .arrival rfl ?_ other passes hdir).1).2 ?_
    · decide +kernel
    · exact ⟨by decide, by decide⟩
  · refine mt ((hdb.load_store.2 "t" t .empty .arrival rfl ?_ other passes hdir).1).1 ?_
    · decide +kernel
    · exact fun hends ↦ absurd (hends.value ⟨["y", "x\r"]⟩ (by simp [t]) "x\r" rfl) (by decide)

end Database

end Tabular
