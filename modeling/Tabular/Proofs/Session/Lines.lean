import Tabular.Proofs.Session.Blocks
import Tabular.Proofs.Session.Composed
import Tabular.Proofs.Session.Confined
import Tabular.Proofs.Session.Reordered

/-!
# What a session writes, line by line

Without a prompt, a session writes lines: the block of each text that it carries out
(`Block.OfText`), one after the other, and one line more if the script ends with something left over
that no semicolon completes (`Session.LeavesOver`).

The block of a text is told by the statement that it reads as and by the state that the session was
in when it came to it. So the texts are gathered along the run together with these states
(`Session.handed`), and what is said of one text over any state (`Database.exists_block_of_execute`)
is carried through the run by induction on the events (`Session.exists_blocks_of_play`). The
invariant of the induction is that texts alone have made what is in the database
(`Database.Executed`), whatever the files held that were read on the way: then no text of it breaks
a line.

The output can be cut into these lines again, and lines of rows are told from all others by the two
blanks that they begin with (`Session.run_lines`).

## What `Written` says

The fields of `Session.Written` belong together. The blocks are those of the texts that were carried
out (`map_handed`, `of_handed`), the output is their lines (`render_eq`), and the output by itself
gives the lines again (`splitOn_render`) and tells lines of rows from others (`filter_indented`).
The first two tie each block to a statement in a state, so they say which table is printed, and the
others are about text.
-/

namespace Tabular

open Disk (FileTree)
open Text (OneLine)

/-- No text that comes into a database breaks a line. -/
theorem Database.Executed.oneLine {dataDir : String} {reads : List Text.Bytes} {db : Database}
    (h : Executed dataDir reads db) : db.HoldsOnly OneLine := by
  intro entry hentry
  have hinline := h.inline entry hentry
  exact ⟨fun title htitle ↦ (hinline.title title htitle).2,
    fun r hr v hv ↦ (hinline.value r hr v hv).2⟩

/-! ### Sessions -/

namespace Session

variable {passes : Nat → Passes}

/-- The texts that a session hands to its database, each with the state that the session is in when
it comes to it. -/
def handed (prompt : Option String) (passes : Nat → Passes) :
    List Event → State → List (State × String) :=
  gathered prompt passes fun s event ↦ event.text?.toList.map (s, ·)

/-- What comes of these texts in these states is what comes of them in the session. -/
theorem map_handed (prompt : Option String) (passes : Nat → Passes) (es : List Event) (s : State) :
    (handed prompt passes es s).map (fun p ↦ (p.2, (p.1.outcome passes p.2).1)) =
      executed prompt passes es s := by
  induction es generalizing s with
  | nil => rfl
  | cons event es ih =>
    rw [executed, handed, gathered, List.map_append]
    congr 1
    · cases event <;> rfl
    · split
      · exact ih _
      · rfl

/-- What is written of a text in a state is the block: that of the statement which the text reads
as, over the database and the files of the state. -/
def State.BlockOf (s : State) (passes : Nat → Passes) (text : String) (block : Block) : Prop :=
  Block.OfText s.database s.files (passes s.statements) text (s.outcome passes text) block

/-- **Of the lines of all blocks, those of rows begin with two blanks**, and no other does. -/
theorem filter_indented_flatMap {texts : List (State × String)} {blocks : List Block}
    (h : List.Forall₂ (fun p block ↦ p.1.BlockOf passes p.2 block) texts blocks) :
    (blocks.flatMap Block.lines).filter (fun line ↦ Text.Indented line) =
      blocks.flatMap Block.rowLines := by
  induction h with
  | nil => rfl
  | cons hblock _ ih =>
    rw [List.flatMap_cons, List.flatMap_cons, List.filter_append, hblock.filter_indented, ih]

/-- The line at the end of a session that has said that a statement is unfinished. -/
def leftOver (messages : List Message) : List String :=
  if .error (.malformed .unfinished) ∈ messages then
    ["Error: syntax error: unexpected end of input"]
  else []

theorem leftOver_eq_nil {messages : List Message}
    (h : .error (.malformed .unfinished) ∉ messages) : leftOver messages = [] :=
  if_neg h

/-- Only the end of a script adds the line, so what was written before it does not matter. -/
theorem leftOver_append {messages : List Message}
    (h : .error (.malformed .unfinished) ∉ messages) (more : List Message) :
    leftOver (messages ++ more) = leftOver more := by
  simp [leftOver, h]

/-- The line that is added is one line, and not the line of a row. -/
theorem oneLine_of_mem_leftOver {messages : List Message} {line : String}
    (h : line ∈ leftOver messages) : OneLine line ∧ ¬ Text.Indented line := by
  unfold leftOver at h
  split at h
  · rw [List.mem_singleton.1 h]
    decide +kernel
  · cases h

/-- A session does not go on from the end of a script. -/
theorem State.within_of_goOn {prompt : Option String} {event : Event} {s : State}
    (h : (s.reply prompt passes event).flow = .goOn) : event.Within := by
  cases event with
  | statement | lineEnd => trivial
  | unreadable | finish => cases h

/-- Only at the end of a script is a statement said to be unfinished. -/
theorem State.unfinished_not_mem_reply {prompt : Option String} (event : Event)
    (h : event.Within) (s : State) :
    .error (.malformed .unfinished) ∉ (s.reply prompt passes event).messages := by
  have hplay : .error (.malformed .unfinished) ∉ (play prompt passes [event] s).messages :=
    unfinished_not_mem_play (List.forall_mem_singleton.2 h) s
  refine mt (fun hmem ↦ ?_) hplay
  rw [play_cons]
  split
  · exact List.mem_append_left _ hmem
  · exact hmem

/-- What one event writes: the block of its text, if it has one, and the line at the end. -/
theorem State.exists_blocks_of_reply (passes : Nat → Passes) {s : State}
    (hwf : s.database.WellFormed) (hdb : s.database.HoldsOnly OneLine) (event : Event) :
    ∃ blocks : List Block,
      List.Forall₂ (fun p block ↦ p.1.BlockOf passes p.2 block)
        (event.text?.toList.map (s, ·)) blocks ∧
      (∀ line ∈ blocks.flatMap Block.lines, OneLine line) ∧
      Message.render (s.reply none passes event).messages =
        Text.unlines (blocks.flatMap Block.lines ++
          leftOver (s.reply none passes event).messages) := by
  cases event with
  | statement text =>
    obtain ⟨block, hblock, hshows⟩ :=
      Database.exists_block_of_execute (passes s.statements) hwf hdb s.files text
    have hunfinished : .error (.malformed .unfinished) ∉
        (s.reply none passes (.statement text)).messages :=
      unfinished_not_mem_reply (.statement text) trivial s
    refine ⟨[block], .cons hblock .nil, ?_, ?_⟩
    · rw [List.flatMap_singleton]
      exact hshows.oneLine
    · rw [leftOver_eq_nil hunfinished, List.append_nil, List.flatMap_singleton, reply_statement]
      exact hshows.render_eq
  | lineEnd idle =>
    refine ⟨[], .nil, by simp, ?_⟩
    cases idle <;> rfl
  | unreadable fault => exact ⟨[], .nil, by simp, rfl⟩
  | finish idle =>
    refine ⟨[], .nil, by simp, ?_⟩
    cases idle <;> rfl

/-- **A session without a prompt writes a block for each text that it carries out**, one after the
other, if texts have made all that is in its database. -/
theorem exists_blocks_of_play (passes : Nat → Passes) {dataDir : String}
    {reads : List Text.Bytes} {s : State} (hs : Database.Executed dataDir reads s.database)
    (es : List Event) :
    ∃ blocks : List Block,
      List.Forall₂ (fun p block ↦ p.1.BlockOf passes p.2 block) (handed none passes es s) blocks ∧
      (∀ line ∈ blocks.flatMap Block.lines, OneLine line) ∧
      Message.render (play none passes es s).messages =
        Text.unlines (blocks.flatMap Block.lines ++ leftOver (play none passes es s).messages) := by
  induction es generalizing s reads with
  | nil => exact ⟨[], .nil, by simp, rfl⟩
  | cons event es ih =>
    have honeLine : s.database.HoldsOnly OneLine := hs.oneLine
    obtain ⟨blocks, hblocks, hlines, hrender⟩ :=
      State.exists_blocks_of_reply passes hs.wellFormed honeLine event
    rw [play_cons, handed, gathered]
    by_cases hflow : (s.reply none passes event).flow = .goOn
    · -- the line at the end can only be written of the last event, from which nothing goes on
      obtain ⟨reads', hs'⟩ := State.exists_executed_step hs none passes event
      obtain ⟨rest, hrest, hmore, hrender'⟩ := ih hs'
      have hunfinished : .error (.malformed .unfinished) ∉
          (s.reply none passes event).messages :=
        State.unfinished_not_mem_reply event (State.within_of_goOn hflow) s
      rw [if_pos hflow, if_pos hflow]
      refine ⟨blocks ++ rest, List.rel_append hblocks hrest, ?_, ?_⟩
      · rw [List.flatMap_append]
        exact List.forall_mem_append.2 ⟨hlines, hmore⟩
      · rw [leftOver_eq_nil hunfinished, List.append_nil] at hrender
        show Message.render (_ ++ _) = Text.unlines (_ ++ leftOver (_ ++ _))
        rw [Message.render_append, hrender, hrender', leftOver_append hunfinished,
          List.flatMap_append, List.append_assoc, Text.unlines_append _ (_ ++ _)]
    · rw [if_neg hflow, if_neg hflow, List.append_nil]
      exact ⟨blocks, hblocks, hlines, hrender⟩

/-- The script is text up to its end, and there more than blanks is waiting for a semicolon. -/
def LeavesOver (script : Text.Bytes) : Prop :=
  ∃ texts : List String, Text.textLines script = texts.map some ∧
    (Splitter.start.lines texts).2.idle = false

/-- **A statement is said to be unfinished exactly if the session comes to the end of a script that
leaves something over.** -/
theorem unfinished_mem_run_iff {prompt : Option String} {s : State} (hs : s.database.WellFormed)
    (script : Text.Bytes) :
    .error (.malformed .unfinished) ∈ (run prompt passes script s).messages ↔
      LeavesOver script ∧ ¬ Exits prompt passes (scriptEvents script) s := by
  obtain ⟨texts, last, hevents, hlast⟩ := exists_scriptEvents_eq script
  have hwithin : ∀ e ∈ (Splitter.start.lines texts).1, e.Within :=
    fun e he ↦ Splitter.within_of_mem_lines he
  have hquiet : ∀ e ∈ [last], e.text? = none := by
    rcases hlast with ⟨-, rfl⟩ | ⟨-, rfl⟩ <;> simp [Event.text?]
  have hbefore : .error (.malformed .unfinished) ∉
      (play prompt passes (Splitter.start.lines texts).1 s).messages :=
    unfinished_not_mem_play hwithin s
  have hleaves : LeavesOver script ↔ last = .finish false := by
    rcases hlast with ⟨htexts, rfl⟩ | ⟨hnone, rfl⟩
    · simp [LeavesOver, htexts, (Option.some_injective String).list_map.eq_iff]
    · refine iff_of_false ?_ (by simp)
      rintro ⟨texts', htexts, -⟩
      simp [htexts] at hnone
  have hrun : (run prompt passes script s).messages =
      promptWhen prompt true ++ (play prompt passes (scriptEvents script) s).messages := rfl
  rw [hrun, List.mem_append, or_iff_right (error_not_mem_promptWhen true _), hevents,
    exits_append_of_quiet hquiet, hleaves, play_append]
  by_cases hexits : Exits prompt passes (Splitter.start.lines texts).1 s
  · have hgoOn : (play prompt passes (Splitter.start.lines texts).1 s).flow ≠ .goOn :=
      fun h ↦ (goOn_iff_not_exits hwithin hs).1 h hexits
    simp [hgoOn, hexits, hbefore]
  · have hgoOn : (play prompt passes (Splitter.start.lines texts).1 s).flow = .goOn :=
      (goOn_iff_not_exits hwithin hs).2 hexits
    simp only [if_pos hgoOn, and_iff_left hexits]
    refine List.mem_append.trans ((or_iff_right hbefore).trans ?_)
    rcases hlast with ⟨-, rfl⟩ | ⟨-, rfl⟩
    · cases Splitter.idle _ <;> simp [play_cons, State.reply, act, FileTree.perform]
    · simp [play_cons, State.reply, act, FileTree.perform]

/-- The messages that were written over events are lines: those of a block for each text that was
carried out, and the one that was left over. -/
structure Written (passes : Nat → Passes) (es : List Event) (s : State) (messages : List Message)
    (blocks : List Block) : Prop where
  /-- The texts that the blocks are for are those that were carried out, with what came of them. -/
  map_handed : (handed none passes es s).map (fun p ↦ (p.2, (p.1.outcome passes p.2).1)) =
    executed none passes es s
  /-- Each block is that of the statement which its text reads as, over the database and the files
  that the session had come to by then. -/
  of_handed : List.Forall₂ (fun p block ↦ p.1.BlockOf passes p.2 block)
    (handed none passes es s) blocks
  render_eq : Message.render messages =
    Text.unlines (blocks.flatMap Block.lines ++ leftOver messages)
  /-- Cut at its line feeds, the output gives these lines again. -/
  splitOn_render : (Message.render messages).toList.splitOn '\n' =
    (blocks.flatMap Block.lines ++ leftOver messages).map String.toList ++ [[]]
  /-- The lines of rows are those that begin with two blanks. -/
  filter_indented : (blocks.flatMap Block.lines ++ leftOver messages).filter
    (fun line ↦ Text.Indented line) = blocks.flatMap Block.rowLines

/-- What a session writes over any events is written block by block. -/
theorem exists_written_of_play (passes : Nat → Passes) {dataDir : String}
    {reads : List Text.Bytes} {s : State} (hs : Database.Executed dataDir reads s.database)
    (es : List Event) :
    ∃ blocks, Written passes es s (play none passes es s).messages blocks := by
  obtain ⟨blocks, hblocks, hlines, hrender⟩ := exists_blocks_of_play passes hs es
  refine ⟨blocks, map_handed none passes es s, hblocks, hrender, ?_, ?_⟩
  · rw [hrender]
    refine Text.splitOn_unlines (List.forall_mem_append.2 ⟨hlines, fun line hline ↦ ?_⟩)
    exact (oneLine_of_mem_leftOver hline).1
  · have hlast : (leftOver (play none passes es s).messages).filter
        (fun line ↦ Text.Indented line) = [] :=
      List.filter_eq_nil_iff.2 fun line hline ↦ by
        simpa using (oneLine_of_mem_leftOver hline).2
    rw [List.filter_append, filter_indented_flatMap hblocks, hlast, List.append_nil]

/-- **The output of a session reads back line by line.** Whatever the script and whatever the files
hold, a new session without a prompt writes of each text that it carries out the block of its
statement: nothing for `create`, `insert` and `exit`, one line for `load`, `store` and all that is
refused, a heading and the rows of the table for `print` and `select`. It writes one line more
exactly if it comes to the end of a script that leaves something over. No text breaks a line, and
only the lines of rows begin with two blanks. A script that is read from a file while it is carried
out is written of in the same way. -/
theorem run_lines (passes : Nat → Passes) (dataDir : String) (files : FileTree) :
    let s : State := ⟨.empty dataDir, files, 0⟩
    (∀ script, ∃ blocks,
      Written passes (scriptEvents script) s (run none passes script s).messages blocks ∧
      (.error (.malformed .unfinished) ∈ (run none passes script s).messages ↔
        LeavesOver script ∧ ¬ Exits none passes (scriptEvents script) s)) ∧
    ∀ path, ∃ es blocks, runFile passes path s = play none passes es s ∧
      Written passes es s (runFile passes path s).messages blocks := by
  intro s
  have hs : Database.Executed dataDir [] s.database := .empty
  refine ⟨fun script ↦ ?_, fun path ↦ ?_⟩
  · obtain ⟨blocks, h⟩ := exists_written_of_play passes hs (scriptEvents script)
    exact ⟨blocks, h, unfinished_mem_run_iff hs.wellFormed script⟩
  · obtain ⟨es, hes⟩ : ∃ es, runFile passes path s = play none passes es s :=
      exists_playFile_eq_play (.start path) .start s
    obtain ⟨blocks, h⟩ := exists_written_of_play passes hs es
    exact ⟨es, blocks, hes, hes ▸ h⟩

/-- Two statements of which nothing is written, a table, an error, and the line at the end. -/
example :
    let script := Text.utf8 "create table t (a); insert into t values 'x y';\nprint t; print u;\nx"
    Message.render (run none (fun _ ↦ .arrival) script ⟨.empty "", .empty, 0⟩).messages =
      Text.unlines ["Contents of t:", "  x y", "Error: unknown table: u",
        "Error: syntax error: unexpected end of input"] := by
  decide +kernel

end Session

end Tabular
