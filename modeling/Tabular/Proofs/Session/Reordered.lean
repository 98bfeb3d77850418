import Tabular.Proofs.Database.Reordered
import Tabular.Proofs.Session.Executed

/-!
# Sessions that go through rows in different orders

A table's rows are in no order, and whoever goes through them takes some order. Two sessions that
play the same script over the same files, each with orders of its own, write the same but for the
order of rows under one heading, and leave the same tables behind, and the same files but for the
order of their lines (`Session.run_reordered`).

An order may get into a file that one statement stores, and out of it again where a later statement
loads it. So both the databases and the files of the two sessions are compared after each event
(`Session.State.Reordered.step`).

That the two databases agree but for order is not enough to go on with, since rows with commas in
their values could be taken for the same. That they were made by texts is what excludes commas
(`Database.Executed.inline`), so this is carried along through the run next to the relation of the
two states. Of one session it is enough: the other database has the same rows.
-/

namespace Tabular

open Disk (Action FileTree)

/-- The message is a heading, which rows follow. -/
inductive Message.IsHeading : Message → Prop
  | contentsOf (table : String) : IsHeading (.contentsOf table)
  | results : IsHeading .results

/-- The messages are the same but for the order of the rows that follow one heading. -/
inductive Message.Reordered : List Message → List Message → Prop
  | nil : Reordered [] []
  | cons (m : Message) {ms ms' : List Message} (h : Reordered ms ms') :
    Reordered (m :: ms) (m :: ms')
  | block {heading : Message} (hheading : heading.IsHeading) {rows rows' : List Row}
    {ms ms' : List Message} (hperm : rows.Perm rows') (h : Reordered ms ms') :
    Reordered (heading :: rows.map .row ++ ms) (heading :: rows'.map .row ++ ms')

namespace Message.Reordered

variable {ms ms' : List Message}

theorem refl (ms : List Message) : Reordered ms ms := by
  induction ms with
  | nil => exact .nil
  | cons m _ ih => exact .cons m ih

theorem append {later later' : List Message} (h : Reordered ms ms')
    (hlater : Reordered later later') : Reordered (ms ++ later) (ms' ++ later') := by
  induction h with
  | nil => exact hlater
  | cons m _ ih => exact .cons m ih
  | block hheading hperm _ ih =>
    simp only [List.cons_append, List.append_assoc]
    exact .block hheading hperm ih

theorem print {t t' : Table} (h : t.Reordered t') {heading : Message} (hheading : heading.IsHeading)
    (order order' : RowOrder) : Reordered (t.print heading order) (t'.print heading order') := by
  have hblock : Reordered (t.print heading order ++ []) (t'.print heading order' ++ []) :=
    .block hheading (h.list_perm order order') .nil
  simpa using hblock

end Message.Reordered

/-! ### One event -/

/-- What is written of related outcomes differs in the order of rows only. -/
theorem Database.Reordered.report {db db' : Database} (h : db.Reordered db')
    {outcome outcome' : Except Failure Output}
    (houtcome : Parallel Output.Reordered outcome outcome') (order order' : RowOrder) :
    Message.Reordered (db.report order outcome).1 (db'.report order' outcome').1 ∧
      (db.report order outcome).2 = (db'.report order' outcome').2 := by
  cases houtcome with
  | error f => cases f <;> exact ⟨.refl _, rfl⟩
  | @ok output _ houtput =>
    cases houtput with
    | rows ht => exact ⟨.print ht .results order order', rfl⟩
    | same =>
      cases output with
      | print name =>
        have htable := h.table? name
        simp only [Database.report]
        generalize db.table? name = found at htable
        generalize db'.table? name = found' at htable
        cases htable with
        | none => exact ⟨.refl _, rfl⟩
        | some ht => exact ⟨.print ht (.contentsOf name) order order', rfl⟩
      | rows t => exact ⟨.print (.refl t) .results order order', rfl⟩
      | created | loaded | stored | inserted | exit => exact ⟨.refl _, rfl⟩

/-- The replies are the same but for the order of rows. -/
structure Reply.Reordered (r r' : Reply) : Prop where
  messages : Message.Reordered r.messages r'.messages
  database : r.database.Reordered r'.database
  flow : r.flow = r'.flow

namespace Session

variable {dataDir : String} {reads : List Text.Bytes}

/-- An event asks for the same files in both sessions, and whatever the disk answers, the replies
are the same but for the order of rows. -/
theorem parallel_act {prompt : Option String} {db db' : Database} (h : db.Reordered db')
    (hwf : db.WellFormed) (hdb : db.HoldsOnly Text.Inline) (orders orders' : Passes)
    (event : Event) :
    Action.Parallel Reply.Reordered (act prompt orders db event)
      (act prompt orders' db' event) := by
  cases event with
  | statement text =>
    refine (h.execute hwf hdb orders orders' text).map fun p p' ⟨houtcome, hafter⟩ ↦ ?_
    have hreport := hafter.report houtcome orders.shown orders'.shown
    exact ⟨hreport.1, hafter, hreport.2⟩
  | lineEnd idle => exact .done ⟨.refl _, h, rfl⟩
  | unreadable fault => exact .done ⟨.refl _, h, rfl⟩
  | finish idle => exact .done ⟨.refl _, h, rfl⟩

/-- The states are the same but for the order of rows and of lines in files. -/
structure State.Reordered (s s' : State) : Prop where
  database : s.database.Reordered s'.database
  files : s.files.Reordered s'.files
  statements : s.statements = s'.statements

/-- **An event makes no other difference than there was**, if texts have made all that is in the
database. -/
theorem State.Reordered.step {s s' : State} (h : s.Reordered s')
    (hs : Database.Executed dataDir reads s.database) (prompt : Option String)
    (passes passes' : Nat → Passes) (event : Event) :
    (s.reply prompt passes event).Reordered (s'.reply prompt passes' event) ∧
      (s.step prompt passes event).Reordered (s'.step prompt passes' event) := by
  have hact : Action.Parallel Reply.Reordered (act prompt (passes s.statements) s.database event)
      (act prompt (passes' s'.statements) s'.database event) :=
    parallel_act h.database hs.wellFormed hs.inline _ _ event
  obtain ⟨hreply, hfiles⟩ := hact.perform h.files
  refine ⟨hreply, hreply.database, hfiles, ?_⟩
  cases event with
  | statement text => exact congrArg (· + 1) h.statements
  | lineEnd | unreadable | finish => exact h.statements

/-- What an event leaves behind has been made by texts, if all was before. -/
theorem State.exists_executed_step {s : State} (hs : Database.Executed dataDir reads s.database)
    (prompt : Option String) (passes : Nat → Passes) (event : Event) :
    ∃ reads', Database.Executed dataDir reads' (s.step prompt passes event).database := by
  cases event with
  | statement text =>
    rw [step, reply_statement]
    have hgive : (s.database.execute (passes s.statements) text).MayGive (s.outcome passes text) :=
      s.mayGive_outcome text
    obtain ⟨more, hgives⟩ := Action.exists_gives hgive
    exact ⟨_, hs.execute hgives⟩
  | lineEnd | unreadable | finish => exact ⟨reads, hs⟩

/-! ### All events -/

/-- The transcripts are the same but for the order of rows and of lines in files. -/
structure Transcript.Reordered (t t' : Transcript) : Prop where
  messages : Message.Reordered t.messages t'.messages
  state : t.state.Reordered t'.state
  flow : t.flow = t'.flow

theorem Transcript.Reordered.after {t t' : Transcript} (h : t.Reordered t')
    {messages messages' : List Message} (hmessages : Message.Reordered messages messages') :
    (t.after messages).Reordered (t'.after messages') :=
  ⟨hmessages.append h.messages, h.state, h.flow⟩

/-- Step by step, the two sessions stay the same but for the order of rows. -/
theorem State.Reordered.play {s s' : State} (h : s.Reordered s')
    (hs : Database.Executed dataDir reads s.database) (prompt : Option String)
    (passes passes' : Nat → Passes) (es : List Event) :
    (play prompt passes es s).Reordered (play prompt passes' es s') := by
  induction es generalizing s s' reads with
  | nil => exact ⟨.nil, h, rfl⟩
  | cons event es ih =>
    obtain ⟨hreply, hstep⟩ := h.step hs prompt passes passes' event
    obtain ⟨reads', hs'⟩ := State.exists_executed_step hs prompt passes event
    rw [play_cons, play_cons, ← hreply.flow]
    split
    · exact (ih hstep hs').after hreply.messages
    · exact ⟨hreply.messages, hstep, rfl⟩

/-- **Nothing that can be observed depends on the order in which rows are gone through.** Whatever
orders two sessions take, they end in the same way, write the same but for the order of the rows
under one heading, and leave the same tables and the same files behind but for the order of rows and
of lines. -/
theorem run_reordered (prompt : Option String) (passes passes' : Nat → Passes)
    (script : Text.Bytes) (dataDir : String) (files : FileTree) :
    let t := run prompt passes script ⟨.empty dataDir, files, 0⟩
    let t' := run prompt passes' script ⟨.empty dataDir, files, 0⟩
    t.flow = t'.flow ∧ Message.Reordered t.messages t'.messages ∧
      t.state.database.Reordered t'.state.database ∧ t.state.files.Reordered t'.state.files := by
  intro t t'
  have hstart : State.Reordered ⟨.empty dataDir, files, 0⟩ ⟨.empty dataDir, files, 0⟩ :=
    ⟨.refl _, .refl files, rfl⟩
  have hplay := hstart.play .empty prompt passes passes' (scriptEvents script)
  have hrun : t.Reordered t' := hplay.after (.refl _)
  exact ⟨hrun.flow, hrun.messages, hrun.state.database, hrun.state.files⟩

end Session

end Tabular
