import Tabular.Proofs.Database.Refusals
import Tabular.Proofs.Query.Faults
import Tabular.Proofs.Statement.Blamed
import Tabular.Proofs.Statement.Grammar
import Tabular.Proofs.Table.Format

/-!
# Errors that texts cannot run into

Some errors are about requests that cannot be written down. A list in a statement is not empty, a
query names one table or two, and the symbols of relations are those of the six; so a statement that
was read from text is one that can be spelled (`Statement.spellable_of_ofText`). Nor are there files
without columns, since the empty line is one empty field (`Table.ofFile_of_load`). What is left is
told statement by statement by `Statement.Raises`, and no text that reads as a statement is refused
with anything else (`Database.raises_of_execute`).

Being spellable (`Statement.Spellable`) is what a statement has from its text: its lists are not
empty, a query is of one table or two, and its relations have symbols. A statement that was put
together by a program need not be spellable, and for such statements the errors in question do
occur. So the theorem about statements has this as a hypothesis, and the one about texts has not.

## Where each error comes from

`Statement.Raises` has one constructor for each kind of statement and the errors that come of it,
and the errors of queries and of files are listed by themselves (`Error.OfQuery`, `Error.OfFile`),
since two kinds of statements share the first. The theorem about texts is read off it by cases, one
for each error that it speaks of. That an error is in the list does not say that it occurs; for that
there are `Database.Refuses` and the faults of queries.
-/

namespace Tabular

/-! ### Errors of statements -/

/-- What a query is refused with, if it can be spelled. -/
inductive Error.OfQuery : Error → Prop
  | tableNotFound (name : String) : OfQuery (.tableNotFound name)
  | columnNotFound (title : String) : OfQuery (.columnNotFound title)
  | duplicateColumn (title : String) : OfQuery (.duplicateColumn title)

/-- What loading a table is refused with. -/
inductive Error.OfFile : Error → Prop
  | storage (fault : StorageFault) : OfFile (.storage fault)
  | duplicateColumn (title : String) : OfFile (.duplicateColumn title)
  | rowWidth (expected found : Nat) : OfFile (.rowWidth expected found)

namespace Statement

/-- What a statement is refused with, if it can be spelled. -/
inductive Raises : Statement → Error → Prop
  | columns (name : String) (titles : List String) (title : String) :
    Raises (.create name (.columns titles)) (.duplicateColumn title)
  | created (name : String) (q : Query) {e : Error} (h : e.OfQuery) :
    Raises (.create name (.query q)) e
  | load (name : String) {e : Error} (h : e.OfFile) : Raises (.load name) e
  | store (name : String) (fault : StorageFault) : Raises (.store name) (.storage fault)
  | insert (name : String) (values : List String) (expected found : Nat) :
    Raises (.insert name values) (.rowWidth expected found)
  | select (q : Query) {e : Error} (h : e.OfQuery) : Raises (.select q) e
  | unknownTable {s : Statement} (name : String)
    (hs : s = .store name ∨ (∃ values, s = .insert name values) ∨ s = .print name) :
    Raises s (.tableNotFound name)

/-- None of these is about an empty list of columns or about the form of a statement. -/
theorem Raises.ne_noColumns {s : Statement} {e : Error} (h : s.Raises e) :
    e ≠ .noColumns ∧ e.malformation? = none := by
  cases h with
  | created _ _ h | load _ h | select _ h => cases h <;> exact ⟨by simp, rfl⟩
  | _ => exact ⟨by simp, rfl⟩

/-- The statement that a text reads as. -/
def ofText (text : String) : Except Failure Statement :=
  Token.ofText text >>= ofTokens

variable {text : String}

/-- **What is read can be spelled.** -/
theorem spellable_of_ofText {s : Statement} (h : ofText text = .ok s) : s.Spellable := by
  obtain ⟨ts, -, hread⟩ := bind_eq_ok_iff.1 h
  obtain ⟨spelling, hspelled, -⟩ := ofTokens_eq_ok_iff.1 hread
  cases hspelled with
  | tokens hspellable => exact hspellable
  | quit => trivial

/-- **A text that is no statement** is refused for neither of the two faults that statements have
only if they were made otherwise. -/
theorem ofText_eq_error {f : Failure} (h : ofText text = .error f) :
    ∃ fault, f = .malformed fault ∧ fault ≠ .tableCount ∧
      ∀ symbol, fault ≠ .unknownRelation symbol := by
  rcases bind_eq_error_iff.1 h with h | ⟨ts, hts, h⟩
  · obtain ⟨fault, rfl, hlexical⟩ := Token.ofText_eq_error h
    refine ⟨fault, rfl, ?_, fun symbol ↦ ?_⟩ <;> rintro rfl <;> exact hlexical
  · have hne : ts ≠ [] := by
      obtain ⟨us, rfl, -⟩ := Token.ofText_eq_ok_iff.1 hts
      simp
    obtain ⟨fault, rfl, hfault⟩ := ofTokens_eq_error hne h
    refine ⟨fault, rfl, ?_, fun symbol ↦ ?_⟩
    · rintro rfl
      obtain hfault | ⟨_, _, _, hfault, -⟩ := hfault
      · exact hfault
      · cases hfault
    · rintro rfl
      exact ne_unknownRelation hts symbol h

end Statement

namespace Table

/-- If there are titles at all, they are refused only because one is repeated. -/
theorem exists_duplicate_of_new {titles : List String} {e : Error} (hne : titles ≠ [])
    (h : new titles = .error e) : ∃ title, e = .duplicateColumn title := by
  unfold new at h
  rw [if_neg hne] at h
  split at h <;> cases h
  exact ⟨_, rfl⟩

/-- **No file is refused for having no columns**, whatever its first line is. -/
theorem ofFile_of_load {dir name : String} {e : Error} (h : (load dir name).MayGive (.error e)) :
    e.OfFile := by
  obtain ⟨answer, h⟩ := h
  cases answer with
  | error fault => cases fault <;> cases h <;> exact .storage _
  | ok content =>
    obtain ⟨-, rfl⟩ | ⟨k, hfault, -⟩ := decode_eq_error_iff.1 h.symm
    · exact .storage _
    · cases hfault with
      | notText => exact .storage _
      | repeated => exact .duplicateColumn _
      | width => exact .rowWidth _ _

end Table

namespace Database

variable {db db' : Database} {passes : Passes}

/-- A text is carried out as the statement that it reads as. -/
theorem execute_read {text : String} {s : Statement} (h : Statement.ofText text = .ok s) :
    db.execute passes text = db.run passes s := by
  rw [execute, show Token.ofText text >>= Statement.ofTokens = .ok s from h]

/-- A text that reads as no statement is refused for that, and nothing is done. -/
theorem execute_unread {text : String} {f : Failure} (h : Statement.ofText text = .error f) :
    db.execute passes text = .done (.error f, db) := by
  rw [execute, show Token.ofText text >>= Statement.ofTokens = .error f from h]

/-- A query that can be spelled asks for something, of one table or two. -/
theorem ofQuery_of_select (hdb : db.WellFormed) {q : Query} (hq : q.Spellable) {e : Error}
    (h : db.select passes q = .error (.error e)) : e.OfQuery := by
  obtain ⟨herror, -, hall, -⟩ := select_eq_error_iff hdb passes q
  obtain ⟨e, hhead, ⟨⟩⟩ := (herror _).1 h
  rw [Query.faults, List.append_assoc] at hhead
  by_cases htables : q.tableFaults db = []
  · rw [htables, List.nil_append] at hhead
    rcases List.mem_append.1 (List.mem_of_mem_head? hhead) with he | he
    · obtain ⟨title, -, rfl⟩ := List.mem_map.1 he
      exact .columnNotFound title
    cases hselection : q.selection with
    | all =>
      rw [hall hselection htables] at he
      cases he
    | columns titles =>
      have htitles : q.titles (q.named db) = titles := by rw [Query.titles, hselection]
      have hne : titles ≠ [] := by
        rintro rfl
        exact hq.1 hselection
      rw [htitles, titleFaults, if_neg hne, List.nil_append] at he
      rcases List.mem_append.1 he with he | he <;> obtain ⟨title, -, rfl⟩ := List.mem_map.1 he
      · exact .duplicateColumn title
      · exact .columnNotFound title
  · rw [List.head?_append_of_ne_nil _ htables] at hhead
    have he := List.mem_of_mem_head? hhead
    rw [Query.tableFaults, if_pos hq.2, List.append_nil] at he
    obtain ⟨name, -, rfl⟩ := List.mem_map.1 he
    exact .tableNotFound name

/-- **A statement that can be spelled raises its own errors only.** -/
theorem raises_of_run (hdb : db.WellFormed) {s : Statement} (hs : s.Spellable) {e : Error}
    (h : (db.run passes s).MayGive (.error (.error e), db')) : s.Raises e := by
  cases ran_of_run h with
  | @notCreated name contents _ hmake =>
    cases contents with
    | columns titles =>
      obtain ⟨title, rfl⟩ :=
        Table.exists_duplicate_of_new hs (Failure.ofExcept_eq_error_error_iff.1 hmake)
      exact .columns name titles title
    | query q => exact .created name q (ofQuery_of_select hdb hs hmake)
  | @notLoaded name _ hload => exact .load name (Table.ofFile_of_load hload)
  | @notStored name => exact .store name _
  | @notInserted name values _ _ _ hadd =>
    obtain ⟨-, rfl⟩ := Table.add_eq_error_iff.1 hadd
    exact .insert name values _ _
  | @notAnswered q _ hselect => exact .select q (ofQuery_of_select hdb hs hselect)
  | @unknownTable _ name _ htable hstatement =>
    obtain ⟨-, rfl⟩ := table_eq_error_iff.1 htable
    exact .unknownTable name hstatement

/-- **What a text is refused for**: that it is no statement, or what its statement raises. -/
theorem raises_of_execute (hdb : db.WellFormed) {text : String} {e : Error}
    (h : (db.execute passes text).MayGive (.error (.error e), db')) :
    (∃ fault, e = .malformed fault ∧ fault ≠ .tableCount ∧
      ∀ symbol, fault ≠ .unknownRelation symbol) ∨
    ∃ s, Statement.ofText text = .ok s ∧ s.Raises e := by
  cases hread : Statement.ofText text with
  | ok s =>
    rw [execute_read hread] at h
    exact .inr ⟨s, rfl, raises_of_run hdb (Statement.spellable_of_ofText hread) h⟩
  | error f =>
    rw [execute_unread hread] at h
    cases h
    obtain ⟨fault, ⟨⟩, hfault⟩ := Statement.ofText_eq_error hread
    exact .inl ⟨fault, rfl, hfault⟩

/-- **Errors that texts do not run into.** Over well-formed tables, whatever a text is and whatever
is on the disk, it is not refused for a missing list of columns, for the number of tables of a query
or for an unknown relation. For the width of a row only insertions and loading are refused, for a
repeated title only what makes a table, for an unknown column only queries, and for the disk only
loading and storing. No file is refused for having no columns. -/
theorem errors_of_execute (hdb : db.WellFormed) (passes : Passes) (text : String) :
    (∀ e db', (db.execute passes text).MayGive (.error (.error e), db') →
      e ≠ .noColumns ∧ e ≠ .malformed .tableCount ∧
      (∀ symbol, e ≠ .malformed (.unknownRelation symbol)) ∧
      (∀ expected found, e = .rowWidth expected found →
        (∃ name values, Statement.ofText text = .ok (.insert name values)) ∨
        ∃ name, Statement.ofText text = .ok (.load name)) ∧
      (∀ title, e = .duplicateColumn title →
        (∃ name contents, Statement.ofText text = .ok (.create name contents)) ∨
        (∃ name, Statement.ofText text = .ok (.load name)) ∨
        ∃ q, Statement.ofText text = .ok (.select q)) ∧
      (∀ title, e = .columnNotFound title →
        (∃ q, Statement.ofText text = .ok (.select q)) ∨
        ∃ name q, Statement.ofText text = .ok (.create name (.query q))) ∧
      ∀ fault, e = .storage fault →
        (∃ name, Statement.ofText text = .ok (.load name)) ∨
        ∃ name, Statement.ofText text = .ok (.store name)) ∧
    ∀ dir name e, (Table.load dir name).MayGive (.error e) → e ≠ .noColumns := by
  refine ⟨fun e db' h ↦ ?_, fun dir name e h ↦ ?_⟩
  · obtain ⟨fault, rfl, hcount, hrelation⟩ | ⟨s, hread, hraises⟩ := raises_of_execute hdb h
    · refine ⟨nofun, fun heq ↦ ?_, fun symbol heq ↦ ?_, nofun, nofun, nofun, nofun⟩
      · exact hcount (Error.malformed.inj heq)
      · exact hrelation symbol (Error.malformed.inj heq)
    · obtain ⟨hne, hform⟩ := hraises.ne_noColumns
      refine ⟨hne, ?_, fun symbol ↦ ?_, fun expected found ↦ ?_, fun title ↦ ?_, fun title ↦ ?_,
        fun fault ↦ ?_⟩ <;> rintro rfl
      · cases hform
      · cases hform
      · cases hraises with
        | insert name values => exact .inl ⟨name, values, hread⟩
        | load name => exact .inr ⟨name, hread⟩
        | created _ _ h | select _ h => cases h
      · cases hraises with
        | columns name titles => exact .inl ⟨name, _, hread⟩
        | created name q => exact .inl ⟨name, _, hread⟩
        | load name => exact .inr (.inl ⟨name, hread⟩)
        | select q => exact .inr (.inr ⟨q, hread⟩)
      · cases hraises with
        | select q => exact .inl ⟨q, hread⟩
        | created name q => exact .inr ⟨name, q, hread⟩
        | load _ h => cases h
      · cases hraises with
        | load name => exact .inl ⟨name, hread⟩
        | store name => exact .inr ⟨name, hread⟩
        | created _ _ h | select _ h => cases h
  · rintro rfl
    cases Table.ofFile_of_load h

/-- A row that is too short. -/
theorem errors_of_execute_short :
    let db : Database := ⟨"", [("t", ⟨["a", "b"], []⟩)]⟩
    (db.execute .arrival "insert into t values 'x';").MayGive
        (.error (.error (.rowWidth 2 1)), db) ∧
      ((∃ name values, Statement.ofText "insert into t values 'x';" = .ok (.insert name values)) ∨
        ∃ name, Statement.ofText "insert into t values 'x';" = .ok (.load name)) := by
  intro db
  have hdb : db.WellFormed := by
    intro entry hentry
    rw [List.mem_singleton.1 hentry]
    exact ⟨by decide, by decide, by decide, by decide⟩
  have hshort : (db.execute .arrival "insert into t values 'x';").MayGive
      (.error (.error (.rowWidth 2 1)), db) := by
    have hread : Token.ofText "insert into t values 'x';" >>= Statement.ofTokens =
        .ok (.insert "t" ["x"]) := by decide +kernel
    rw [execute, hread]
    rfl
  obtain ⟨-, -, -, hwidth, -⟩ := (errors_of_execute hdb .arrival _).1 _ _ hshort
  exact ⟨hshort, hwidth 2 1 rfl⟩

end Database

end Tabular
