import Tabular.Proofs.Database.ErrorTexts
import Tabular.Proofs.Database.Raised
import Tabular.Session

/-!
# What a statement writes

Of each statement one block is written (`Block`): nothing, one line, or a heading and a line for
each row of a table. Which block it is depends on the statement and on what the database and the
files hold when it comes to it (`Block.Of`):

* nothing for `create`, `insert` and `exit`, if the table can be made and the row fits its table;
* one line for `load` and `store`, if the file can be read or written;
* the table of the name for `print`, and the result of the query for `select`;
* one line that begins with `Error:`, whatever the statement is, for what is in its way there
  (`Database.Refuses`).

A text is written of as the statement that it reads as, and by such a line too if it reads as none
(`Block.OfText`).

No text breaks a line. This is what makes lines of blocks more than a manner of speaking: texts of
tokens, of tables and of errors are in one line each (`Database.oneLine_message_of_execute`), and so
is every line that is put together from them. Lines can be cut apart again then
(`Text.splitOn_unlines`), and the lines of rows are told from all others by the two blanks that they
begin with (`Block.OfText.filter_indented`).
-/

namespace Tabular

open Disk (FileTree)
open Text (OneLine)

/-! ### Lines -/

namespace Text

/-- Lines one after the other, each ended by a line feed. -/
def unlines (lines : List String) : String :=
  String.join (lines.map (· ++ "\n"))

theorem unlines_append (lines lines' : List String) :
    unlines (lines ++ lines') = unlines lines ++ unlines lines' := by
  rw [unlines, List.map_append, String.join_append]
  rfl

/-- **Lines that hold no line feed are found again.** -/
theorem splitOn_unlines {lines : List String} (h : ∀ line ∈ lines, OneLine line) :
    (unlines lines).toList.splitOn '\n' = lines.map String.toList ++ [[]] := by
  induction lines with
  | nil => rfl
  | cons line lines ih =>
    rw [List.forall_mem_cons] at h
    have hcons : (unlines (line :: lines)).toList =
        line.toList ++ '\n' :: (unlines lines).toList := by
      simp [unlines]
    rw [hcons, List.splitOn_append_cons_self_of_not_mem h.1, ih h.2]
    rfl

/-- The line begins with two blanks. -/
def Indented (line : String) : Prop :=
  [' ', ' '] <+: line.toList

instance : DecidablePred Indented :=
  fun line ↦ inferInstanceAs (Decidable ([' ', ' '] <+: line.toList))

end Text

/-! ### Blocks -/

/-- The line that a row is printed as. -/
def Row.line (r : Row) : String :=
  "  " ++ r.spaced

/-- What is written of one statement. -/
inductive Block
  | nothing
  | line (text : String)
  /-- A heading, and a line for each row. -/
  | table (heading : String) (rows : List Row)

namespace Block

/-- The lines of a block. -/
def lines : Block → List String
  | nothing => []
  | line text => [text]
  | table heading rows => heading :: rows.map Row.line

/-- Those of them that are lines of rows. -/
def rowLines : Block → List String
  | table _ rows => rows.map Row.line
  | _ => []

/-- What comes of a statement over a database and a tree of files, with the database after it, and
the block that is written of it. The rows of a table are written in any order. -/
inductive Of (db : Database) (files : FileTree) (passes : Passes) :
    Statement → Except Failure Output × Database → Block → Prop
  | created {name : String} {contents : Contents} {t : Table}
    (h : db.make passes contents = .ok t) :
    Of db files passes (.create name contents) (.ok (.created name), db.put name t) nothing
  | inserted {name : String} {values : List String} {t t' : Table} {added : Bool}
    (ht : db.table? name = some t) (h : t.add ⟨values⟩ = .ok (added, t')) :
    Of db files passes (.insert name values) (.ok (.inserted name added), db.put name t') nothing
  | ended : Of db files passes .exit (.ok .exit, db) nothing
  | loaded {name : String} {t : Table}
    (h : (files.perform (Table.load db.dataDir name)).1 = .ok t) :
    Of db files passes (.load name) (.ok (.loaded name), db.put name t)
      (line ("Loaded " ++ name ++ ".db"))
  | stored {name : String} {t : Table} (ht : db.table? name = some t)
    (h : (files.perform (t.save passes.shown db.dataDir name)).1 = .ok ()) :
    Of db files passes (.store name) (.ok (.stored name), db) (line ("Stored " ++ name ++ ".db"))
  | printed {name : String} {t : Table} {rows : List Row} (ht : db.table? name = some t)
    (hrows : rows.Perm t.rows) :
    Of db files passes (.print name) (.ok (.print name), db)
      (table ("Contents of " ++ name ++ ":") rows)
  | answered {q : Query} {t : Table} {rows : List Row} (h : db.select passes q = .ok t)
    (hrows : rows.Perm t.rows) :
    Of db files passes (.select q) (.ok (.rows t), db) (table "Search results:" rows)
  | refused {s : Statement} {e : Error} (h : db.Refuses files passes s e) :
    Of db files passes s (.error (.error e), db) (line ("Error: " ++ e.message))

/-- What comes of a text, and the block that is written of it: that of its statement, or a line that
says why it has none. -/
inductive OfText (db : Database) (files : FileTree) (passes : Passes) (text : String) :
    Except Failure Output × Database → Block → Prop
  | read {s : Statement} {after : Except Failure Output × Database} {block : Block}
    (hread : Statement.ofText text = .ok s) (h : Of db files passes s after block) :
    OfText db files passes text after block
  | unread {e : Error} (hread : Statement.ofText text = .error (.error e)) :
    OfText db files passes text (.error (.error e), db) (line ("Error: " ++ e.message))

variable {db : Database} {files : FileTree} {passes : Passes}
  {after : Except Failure Output × Database} {block : Block}

/-- The lines that a statement's block has for rows, and no others of it, begin with two blanks. -/
theorem Of.filter_indented {s : Statement} (h : Of db files passes s after block) :
    block.lines.filter (fun line ↦ Text.Indented line) = block.rowLines := by
  have hrows (rows : List Row) :
      (rows.map Row.line).filter (fun line ↦ Text.Indented line) = rows.map Row.line := by
    refine List.filter_eq_self.2 fun line hline ↦ ?_
    obtain ⟨r, -, rfl⟩ := List.mem_map.1 hline
    simp [Text.Indented, Row.line]
  cases h with
  | created | inserted | ended => rfl
  | loaded | stored | refused => simp [lines, rowLines, Text.Indented]
  | printed | answered =>
    rw [lines, rowLines, List.filter_cons_of_neg (by simp [Text.Indented]), hrows]

/-- **Of the lines of a block, those of rows begin with two blanks**, and no other does. -/
theorem OfText.filter_indented {text : String} (h : OfText db files passes text after block) :
    block.lines.filter (fun line ↦ Text.Indented line) = block.rowLines := by
  cases h with
  | read _ h => exact h.filter_indented
  | unread => simp [lines, rowLines, Text.Indented]

end Block

/-! ### Messages as lines -/

/-- A row of values in one line is printed as one line, since commas are replaced by blanks. -/
theorem Row.oneLine_line {r : Row} (h : ∀ v ∈ r.values, OneLine v) : OneLine r.line := by
  intro hmem
  simp only [line, spaced, String.toList_append, String.toList_ofList, List.mem_append,
    List.mem_map] at hmem
  rcases hmem with hmem | ⟨c, hc, hlf⟩
  · exact absurd hmem (by decide)
  · split at hlf
    · cases hlf
    · subst hlf
      obtain ⟨v, hv, hvlf⟩ := (Text.mem_joinFields_iff (by decide)).1 hc
      exact h v hv hvlf

/-- A table is printed as one line and a line for each row, if its texts are in one line. -/
theorem Block.oneLine_table {heading : String} {t : Table} (order : RowOrder)
    (hheading : OneLine heading) (ht : t.HoldsOnly OneLine) :
    ∀ line ∈ (table heading (order.list t.rows)).lines, OneLine line := by
  refine List.forall_mem_cons.2 ⟨hheading, fun line hline ↦ ?_⟩
  obtain ⟨r, hr, rfl⟩ := List.mem_map.1 hline
  exact Row.oneLine_line (ht.value r (order.mem_list_iff.1 hr))

/-- A message that ends its line is a line. -/
theorem Message.render_singleton {m : Message} {line : String} (h : m.text = line ++ "\n") :
    render [m] = Text.unlines [line] := by
  rw [render, List.map_singleton, h]
  rfl

theorem Message.render_append (ms ms' : List Message) :
    render (ms ++ ms') = render ms ++ render ms' := by
  rw [render, List.map_append, String.join_append]
  rfl

/-- A printed table is a heading and a line for each row. -/
theorem Table.render_print (t : Table) (order : RowOrder) {heading : Message} {line : String}
    (h : heading.text = line ++ "\n") :
    Message.render (t.print heading order) =
      Text.unlines (Block.table line (order.list t.rows)).lines := by
  rw [Message.render, print, List.map_cons, h, List.map_map, Text.unlines, Block.lines,
    List.map_cons, List.map_map]
  rfl

namespace Database

variable {db db' : Database} {files : FileTree} {passes : Passes} {order : RowOrder} {name : String}

/-- What is reported of an outcome is written as the lines of a block. -/
structure Shows (db : Database) (order : RowOrder) (outcome : Except Failure Output)
    (block : Block) : Prop where
  oneLine : ∀ line ∈ block.lines, OneLine line
  render_eq : Message.render (db.report order outcome).1 = Text.unlines block.lines

/-- A single message that ends its line is shown as that line. -/
theorem shows_line {outcome : Except Failure Output} {m : Message} {line : String}
    (hreport : (db.report order outcome).1 = [m]) (htext : m.text = line ++ "\n")
    (h : OneLine line) : db.Shows order outcome (.line line) where
  oneLine := List.forall_mem_singleton.2 h
  render_eq := by
    rw [hreport]
    exact Message.render_singleton htext

/-- An error whose message is in one line is shown as one line. -/
theorem shows_error {e : Error} (h : OneLine e.message) :
    db.Shows order (.error (.error e)) (.line ("Error: " ++ e.message)) :=
  shows_line rfl rfl (Text.oneLine_append_iff.2 ⟨by decide, h⟩)

/-- What is said about the file of a table is one line if the name of the table is. -/
theorem oneLine_file {verb : String} (hverb : OneLine verb) (h : OneLine name) :
    OneLine (verb ++ name ++ ".db") := by
  have hext : OneLine ".db" := by decide
  simp [hverb, h, hext]

/-- That a table was loaded is said in one line. -/
theorem shows_loaded (h : OneLine name) :
    db.Shows order (.ok (.loaded name)) (.line ("Loaded " ++ name ++ ".db")) :=
  shows_line rfl (by simp [Message.text, String.append_assoc]) (oneLine_file (by decide) h)

/-- That a table was stored is said in one line. -/
theorem shows_stored (h : OneLine name) :
    db.Shows order (.ok (.stored name)) (.line ("Stored " ++ name ++ ".db")) :=
  shows_line rfl (by simp [Message.text, String.append_assoc]) (oneLine_file (by decide) h)

theorem shows_print {t : Table} (h : OneLine name) (hdb : db.HoldsOnly OneLine)
    (ht : db.table? name = some t) :
    db.Shows order (.ok (.print name))
      (.table ("Contents of " ++ name ++ ":") (order.list t.rows)) := by
  constructor
  · have hends : OneLine "Contents of " ∧ OneLine ":" := by decide
    exact Block.oneLine_table order (by simp [h, hends]) (hdb.of_table? ht)
  · simp only [report, ht]
    exact t.render_print order (by simp [Message.text, String.append_assoc])

/-- The result of a query is shown row by row, under a heading of its own. -/
theorem shows_rows {t : Table} (h : t.HoldsOnly OneLine) :
    db.Shows order (.ok (.rows t)) (.table "Search results:" (order.list t.rows)) :=
  ⟨Block.oneLine_table order (by decide) h, t.render_print order rfl⟩

/-- **Of a statement that is carried out its block is written.** -/
theorem exists_block_of_run {s : Statement} {output : Output}
    (h : (files.perform (db.run passes s)).1 = (.ok output, db')) (hdb : db.HoldsOnly OneLine)
    (hs : ∀ text ∈ s.texts, OneLine text) :
    ∃ block, Block.Of db files passes s (.ok output, db') block ∧
      db'.Shows passes.shown (.ok output) block := by
  have hran : Ran db passes s (.ok output) db' :=
    ran_of_run (h ▸ files.mayGive_perform (db.run passes s))
  cases hran with
  | created hmake => exact ⟨_, .created hmake, by simp [Block.lines], rfl⟩
  | inserted ht hadd =>
    exact ⟨_, .inserted (table_eq_ok_iff.1 ht) hadd, by simp [Block.lines], rfl⟩
  | ended => exact ⟨_, .ended, by simp [Block.lines], rfl⟩
  | @loaded name =>
    rw [perform_load] at h
    cases hload : (files.perform (Table.load db.dataDir name)).1 with
    | ok t =>
      rw [hload] at h
      rw [← (Prod.mk.inj h).2]
      exact ⟨_, .loaded hload, shows_loaded (hs name List.mem_cons_self)⟩
    | error e =>
      rw [hload] at h
      cases h
  | @stored name t ht =>
    rw [perform_store ht] at h
    cases hsave : (files.perform (t.save passes.shown db.dataDir name)).1 with
    | ok _ =>
      exact ⟨_, .stored (table_eq_ok_iff.1 ht) hsave, shows_stored (hs name List.mem_cons_self)⟩
    | error e =>
      rw [hsave] at h
      cases h
  | @printed name t ht =>
    have htable := table_eq_ok_iff.1 ht
    exact ⟨_, .printed htable (passes.shown.perm t.rows),
      shows_print (hs name List.mem_cons_self) hdb htable⟩
  | @answered q t hselect =>
    exact ⟨_, .answered hselect (passes.shown.perm t.rows), shows_rows (hdb.select hselect)⟩

/-- **Of each text that is carried out its block is written**, over a database in which no text
breaks a line. -/
theorem exists_block_of_execute (passes : Passes) (hwf : db.WellFormed)
    (hdb : db.HoldsOnly OneLine) (files : FileTree) (text : String) :
    let after := (files.perform (db.execute passes text)).1
    ∃ block, Block.OfText db files passes text after block ∧
      after.2.Shows passes.shown after.1 block := by
  intro after
  have hgive : (db.execute passes text).MayGive after := files.mayGive_perform _
  have hmessage : ∀ e, after.1 = .error (.error e) → OneLine e.message :=
    fun e ↦ oneLine_message_of_execute hwf hdb
  cases hread : Statement.ofText text with
  | error f =>
    have hafter : after = (.error f, db) :=
      congrArg (fun x ↦ (files.perform x).1) (execute_unread hread)
    rw [hafter] at hgive hmessage ⊢
    cases f with
    | outOfRange => exact absurd hgive hwf.execute_ne_outOfRange
    | error e => exact ⟨_, .unread hread, shows_error (hmessage e rfl)⟩
  | ok s =>
    have hafter : after = (files.perform (db.run passes s)).1 :=
      congrArg (fun x ↦ (files.perform x).1) (execute_read hread)
    generalize after = p at hgive hmessage hafter
    obtain ⟨outcome, db'⟩ := p
    cases outcome with
    | ok output =>
      obtain ⟨block, hblock, hshows⟩ :=
        exists_block_of_run hafter.symm hdb fun _ ↦ Statement.oneLine_texts hread
      exact ⟨block, .read hread hblock, hshows⟩
    | error f =>
      cases f with
      | outOfRange => exact absurd hgive hwf.execute_ne_outOfRange
      | error e =>
        obtain ⟨hrefuses, rfl⟩ := refuses_of_run hafter.symm
        exact ⟨_, .read hread (.refused hrefuses), shows_error (hmessage e rfl)⟩

end Database

end Tabular
