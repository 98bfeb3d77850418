import Tabular.Proofs.Database.Refusals
import Tabular.Proofs.Script.LineEnds
import Tabular.Session

/-!
# What a session carries out

`Session.executed` lists the texts that a session hands to its database, with what comes of each. As
long as none of them is the end of the session, a session over a well-formed database carries out
all statements among its events (`Session.executed_of_within`), and what it writes of the form of a
statement is what the database says of a text (`Session.exists_of_mem_messages`). So scripts are
carried out token by token, although nobody has read them as tokens when they are cut
(`Session.run_statements`).

A session is played event by event, and most of what is said of sessions is shown in this way. What
an event does in a state is `Session.State.reply`, the state after it is `Session.State.step`, and
`Session.play_cons` is the one equation that a run is taken apart by. The texts that a run carries
out are a list of their own, beside the transcript, because the transcript shows only what is
written: nothing is written about a statement that creates a table, and yet it was carried out.

Between the cutting of a script and the reading of its statements stands one fact, that a text which
was cut ends with the only semicolon among its tokens (`Splitter.Cut`). It is used twice: the texts
of a script read as what the tokens of the whole script are divided into, and no text has anything
after its semicolon.

## What ends a session

A session goes on after every outcome but two (`Database.report_goOn`): the end of the session, and
a value that was missed. The second does not come up over a well-formed database, and statements
keep databases well-formed. So what the theorem on whole scripts has to assume of outcomes is that
none of them is an `exit`, and it need not assume that statements succeed.
-/

namespace Tabular

open Disk (Action FileTree)

/-! ### Outcomes -/

/-- The end of a session, and a value that was missed, are all that a session does not go on
after. -/
theorem Database.report_goOn {db : Database} {order : RowOrder} {outcome : Except Failure Output}
    (hexit : outcome ≠ .ok .exit) (hrange : outcome ≠ .error .outOfRange) :
    (db.report order outcome).2 = .goOn := by
  unfold Database.report
  split <;> try rfl
  · split <;> rfl
  · exact absurd rfl hexit
  · exact absurd rfl hrange

/-- The errors that are reported are those that statements are refused with. -/
theorem Database.error_mem_report_iff {db : Database} {order : RowOrder}
    {outcome : Except Failure Output}
    {e : Error} : .error e ∈ (db.report order outcome).1 ↔ outcome = .error (.error e) := by
  unfold Database.report
  split <;> try simp [Table.print]
  · split <;> simp
  · exact eq_comm

namespace Session

variable {prompt : Option String} {passes : Nat → Passes}

/-! ### One event -/

/-- What comes of a text that is carried out in a state. -/
def State.outcome (s : State) (passes : Nat → Passes) (text : String) :
    Except Failure Output × Database :=
  (s.files.perform (s.database.execute (passes s.statements) text)).1

/-- What an event does in a state. -/
def State.reply (s : State) (prompt : Option String) (passes : Nat → Passes) (event : Event) :
    Reply :=
  (s.files.perform (act prompt (passes s.statements) s.database event)).1

/-- The state after an event. -/
def State.step (s : State) (prompt : Option String) (passes : Nat → Passes) (event : Event) :
    State :=
  s.next event (s.reply prompt passes event).database
    (s.files.perform (act prompt (passes s.statements) s.database event)).2

/-- The text of an event is carried out, and nothing else is. -/
theorem State.reply_statement (s : State) (text : String) :
    s.reply prompt passes (.statement text) =
      let (outcome, db) := s.outcome passes text
      let (messages, flow) := db.report (passes s.statements).shown outcome
      ⟨messages, db, flow⟩ := by
  rw [reply, act, FileTree.perform_map]
  rfl

/-- The files of the state answer in one of the ways in which a disk may. -/
theorem State.mayGive_outcome (s : State) (text : String) :
    (s.database.execute (passes s.statements) text).MayGive (s.outcome passes text) :=
  s.files.mayGive_perform _

/-- Over a well-formed database no text misses a value. -/
theorem State.outcome_ne_outOfRange {s : State} (hs : s.database.WellFormed) (text : String) :
    (s.outcome passes text).1 ≠ .error .outOfRange := by
  intro hrange
  have hmissed : (s.database.execute (passes s.statements) text).MayGive
      (.error .outOfRange, (s.outcome passes text).2) := by
    rw [← hrange]
    exact s.mayGive_outcome text
  exact hs.execute_ne_outOfRange hmissed

theorem State.wellFormed_outcome {s : State} (hs : s.database.WellFormed) (text : String) :
    (s.outcome passes text).2.WellFormed :=
  (hs.execute (s.mayGive_outcome text)).1

/-- **A statement over a well-formed database leaves one behind**, and the session goes on unless it
is ended. -/
theorem State.reply_goOn {s : State} {text : String} (hs : s.database.WellFormed)
    (hexit : (s.outcome passes text).1 ≠ .ok .exit) :
    (s.reply prompt passes (.statement text)).flow = .goOn ∧
      (s.step prompt passes (.statement text)).database.WellFormed := by
  rw [step, reply_statement]
  exact ⟨Database.report_goOn hexit (State.outcome_ne_outOfRange hs text),
    State.wellFormed_outcome hs text⟩

/-! ### All events -/

/-- The texts that a session hands to its database, one after the other, and what comes of each. -/
def executed (prompt : Option String) (passes : Nat → Passes) : List Event → State →
    List (String × Except Failure Output)
  | [], _ => []
  | event :: rest, s =>
    (event.text?.toList.map fun text ↦ (text, (s.outcome passes text).1)) ++
      if (s.reply prompt passes event).flow = .goOn then
        executed prompt passes rest (s.step prompt passes event)
      else []

/-- A session plays its first event, and then the others if it goes on. -/
theorem play_cons (event : Event) (es : List Event) (s : State) :
    play prompt passes (event :: es) s =
      if (s.reply prompt passes event).flow = .goOn then
        (play prompt passes es (s.step prompt passes event)).after
          (s.reply prompt passes event).messages
      else ⟨(s.reply prompt passes event).messages, s.step prompt passes event,
        (s.reply prompt passes event).flow⟩ := rfl

/-- Each text that is carried out is counted. -/
theorem statements_play (es : List Event) (s : State) :
    (play prompt passes es s).state.statements =
      s.statements + (executed prompt passes es s).length := by
  have hstep (event : Event) : (s.step prompt passes event).statements =
      s.statements + event.text?.toList.length := by
    cases event <;> rfl
  induction es generalizing s with
  | nil => rfl
  | cons event es ih =>
    rw [play_cons, executed, List.length_append, List.length_map, ← Nat.add_assoc, ← hstep]
    split
    · exact ih _ fun event ↦ by cases event <;> rfl
    · rfl

/-- What is carried out of some events and more is carried out of the first, and then, if the
session goes on from there, of the others. -/
theorem executed_append (es es' : List Event) (s : State) :
    executed prompt passes (es ++ es') s = executed prompt passes es s ++
      if (play prompt passes es s).flow = .goOn then
        executed prompt passes es' (play prompt passes es s).state
      else [] := by
  induction es generalizing s with
  | nil => simp [play, executed]
  | cons event es ih =>
    rw [List.cons_append, executed, executed, List.append_assoc]
    by_cases hflow : (s.reply prompt passes event).flow = .goOn
    · rw [if_pos hflow, if_pos hflow, ih, play_cons, if_pos hflow]
      rfl
    · rw [if_neg hflow, if_neg hflow, play_cons, if_neg hflow, if_neg hflow]
      rfl

/-- What is carried out is among the events. -/
theorem mem_of_mem_executed {es : List Event} {s : State} {p : String × Except Failure Output}
    (h : p ∈ executed prompt passes es s) : .statement p.1 ∈ es := by
  induction es generalizing s with
  | nil => cases h
  | cons event es ih =>
    rw [executed] at h
    rcases List.mem_append.1 h with h | h
    · obtain ⟨text, htext, rfl⟩ := List.mem_map.1 h
      cases event with
      | statement text' =>
        rw [List.mem_singleton.1 htext]
        exact List.mem_cons_self
      | lineEnd idle => cases htext
      | unreadable fault => cases htext
      | finish idle => cases htext
    · split at h
      · exact List.mem_cons_of_mem event (ih h)
      · cases h

/-- **As long as the session is not ended, all statements are carried out.** -/
theorem executed_of_within {es : List Event} {s : State} (hes : ∀ e ∈ es, e.Within)
    (hs : s.database.WellFormed) (hexit : ∀ p ∈ executed prompt passes es s, p.2 ≠ .ok .exit) :
    (executed prompt passes es s).map Prod.fst = es.filterMap Event.text? ∧
      (play prompt passes es s).flow = .goOn := by
  induction es generalizing s with
  | nil => exact ⟨rfl, rfl⟩
  | cons event es ih =>
    -- the invariant is that the database is well-formed: then no statement misses a value
    have hfirst : (s.reply prompt passes event).flow = .goOn ∧
        (s.step prompt passes event).database.WellFormed := by
      cases event with
      | statement text =>
        exact State.reply_goOn hs (hexit (text, _) (by simp [executed, Event.text?]))
      | lineEnd idle => exact ⟨rfl, hs⟩
      | unreadable fault => exact absurd (hes (.unreadable fault) (by simp)) id
      | finish idle => exact absurd (hes (.finish idle) (by simp)) id
    obtain ⟨hflow, hdb⟩ := hfirst
    rw [executed, if_pos hflow] at hexit
    obtain ⟨htexts, hgoOn⟩ := ih (fun e he ↦ hes e (List.mem_cons_of_mem event he)) hdb
      fun p hp ↦ hexit p (List.mem_append_right _ hp)
    rw [executed, play_cons, if_pos hflow, if_pos hflow, List.map_append, htexts]
    refine ⟨?_, hgoOn⟩
    cases event <;> rfl

/-! ### Messages -/

/-- What a session writes, it writes about one of its events. -/
theorem exists_of_mem_play {es : List Event} {s : State} {m : Message}
    (h : m ∈ (play prompt passes es s).messages) :
    ∃ event ∈ es, ∃ s' : State, m ∈ (s'.reply prompt passes event).messages := by
  induction es generalizing s with
  | nil => cases h
  | cons event es ih =>
    rw [play_cons] at h
    split at h
    · rcases List.mem_append.1 h with h | h
      · exact ⟨event, by simp, s, h⟩
      · obtain ⟨event', hevent', s', h'⟩ := ih h
        exact ⟨event', List.mem_cons_of_mem event hevent', s', h'⟩
    · exact ⟨event, by simp, s, h⟩

theorem error_not_mem_promptWhen (idle : Bool) (e : Error) : .error e ∉ promptWhen prompt idle := by
  unfold promptWhen
  split
  · cases prompt <;> simp
  · simp

/-- **A malformation is reported of a text, or at the end of a script that stops within a
statement.** -/
theorem exists_of_mem_messages {es : List Event} {s : State} {fault : Malformation}
    (h : .error (.malformed fault) ∈ (play prompt passes es s).messages) :
    (∃ text db db', ∃ orders : Passes, .statement text ∈ es ∧
        (Database.execute db orders text).MayGive (.error (.malformed fault), db')) ∨
      (fault = .unfinished ∧ .finish false ∈ es) := by
  obtain ⟨event, hevent, s', h⟩ := exists_of_mem_play h
  cases event with
  | statement text =>
    rw [State.reply_statement] at h
    have houtcome := Database.error_mem_report_iff.1 h
    refine .inl ⟨text, s'.database, (s'.outcome passes text).2, passes s'.statements, hevent, ?_⟩
    rw [← houtcome]
    exact s'.mayGive_outcome text
  | lineEnd idle => exact absurd h (error_not_mem_promptWhen idle _)
  | unreadable fault => cases h
  | finish idle =>
    cases idle with
    | true => cases h
    | false =>
      cases List.mem_singleton.1 h
      exact .inr ⟨rfl, hevent⟩

/-- No text is refused for being unfinished: that is said of scripts. -/
theorem unfinished_not_mem_play {es : List Event} (hes : ∀ e ∈ es, e.Within) (s : State) :
    .error (.malformed .unfinished) ∉ (play prompt passes es s).messages := by
  intro h
  rcases exists_of_mem_messages h with ⟨text, db, db', orders, -, h⟩ | ⟨-, h⟩
  · rcases Database.malformation_of_execute h with h | h | h | ⟨ts, found, front, after, -, h, -⟩
    · exact h
    · exact h
    · cases h
    · cases h
  · exact hes _ h

/-- **Nothing comes after the semicolon of a text that is cut there.** -/
theorem trailing_not_mem_play {es : List Event}
    (hes : ∀ text, .statement text ∈ es → Splitter.Cut text) (s : State) (found : Token) :
    .error (.malformed (.trailing found)) ∉ (play prompt passes es s).messages := by
  intro h
  rcases exists_of_mem_messages h with ⟨text, db, db', orders, htext, h⟩ | ⟨h, -⟩
  · rcases Database.malformation_of_execute h with h | h | h |
      ⟨ts, found', front, after, hts, -, heq, hafter⟩
    · exact h
    · exact h
    · cases h
    · obtain ⟨body, rfl, hbody⟩ := (hes text htext).eq_append_semicolon hts
      exact hafter (Token.head?_of_append_semicolon hbody heq)
  · cases h

/-- Neither is anything found there in a script that is read from a file while it is carried out. -/
theorem trailing_not_mem_runFile (path : String) (s : State) (found : Token) :
    .error (.malformed (.trailing found)) ∉ (runFile passes path s).messages := by
  -- the file may change while it is read: all that is known of the splitter is that it is settled
  suffices ∀ (r : Disk.Reader) (splitter : Splitter), splitter.Settled →
      .error (.malformed (.trailing found)) ∉ (playFile passes r splitter s).messages from
    this _ _ Splitter.settled_start
  intro r splitter hsettled
  fun_induction playFile passes r splitter s with
  | case1 r splitter s fault hline => exact trailing_not_mem_play (by simp) s found
  | case2 r splitter s bytes r' hline events splitter' hpiece t hgoOn ih =>
    have hcut := hsettled.piece bytes
    rw [hpiece] at hcut
    intro h
    rcases List.mem_append.1 h with h | h
    · exact trailing_not_mem_play hcut.1 s found h
    · exact ih hcut.2 h
  | case3 r splitter s bytes r' hline events splitter' hpiece t hgoOn =>
    have hcut := hsettled.piece bytes
    rw [hpiece] at hcut
    exact trailing_not_mem_play hcut.1 s found

/-! ### Scripts -/

/-- Events that complete no statement carry nothing out. -/
theorem executed_append_of_quiet {es more : List Event} {s : State}
    (hmore : ∀ e ∈ more, e.text? = none) :
    executed prompt passes (es ++ more) s = executed prompt passes es s := by
  have hnil (s' : State) : executed prompt passes more s' = [] := by
    refine List.eq_nil_iff_forall_not_mem.2 fun p hp ↦ ?_
    have htext := hmore _ (mem_of_mem_executed hp)
    cases htext
  rw [executed_append, hnil, ite_self, List.append_nil]

/-- The end of a script hands nothing to the database. -/
theorem executed_append_finish (es : List Event) (idle : Bool) (s : State) :
    executed prompt passes (es ++ [.finish idle]) s = executed prompt passes es s :=
  executed_append_of_quiet (by simp [Event.text?])

/-- **Scripts are carried out token by token.** A script that reads as tokens comes to its
statements, each of which reads as the tokens up to a semicolon, and is unfinished if there are
tokens after the last one. The database is well-formed, as all are that anyone comes to
(`Client.Reached.inv`). No text that is carried out, in any script and over any database at all,
reads as more than one statement. -/
theorem run_statements (prompt : Option String) (passes : Nat → Passes) (s : State) :
    (∀ text ts, s.database.WellFormed → Token.ofText text = .ok (ts ++ [.eof]) →
      (∀ p ∈ executed prompt passes (scriptEvents (Text.utf8 text)) s, p.2 ≠ .ok .exit) →
      (executed prompt passes (scriptEvents (Text.utf8 text)) s).map (fun p ↦ Token.ofText p.1) =
          (Token.statements ts).map (fun statement ↦ .ok (statement ++ [.eof])) ∧
        (run prompt passes (Text.utf8 text) s).state.statements =
          s.statements + (Token.statements ts).length ∧
        (.error (.malformed .unfinished) ∈ (run prompt passes (Text.utf8 text) s).messages ↔
          Token.remainder ts ≠ [])) ∧
    (∀ script,
      (∀ p ∈ executed prompt passes (scriptEvents script) s, ∀ ts, Token.ofText p.1 = .ok ts →
        ∃ body, ts = body ++ [.semicolon, .eof] ∧ .semicolon ∉ body) ∧
      ∀ found, .error (.malformed (.trailing found)) ∉ (run prompt passes script s).messages) ∧
    ∀ path found, .error (.malformed (.trailing found)) ∉ (runFile passes path s).messages := by
  refine ⟨fun text ts hs hts hexit ↦ ?_, fun script ↦ ⟨fun p hp ts hts ↦ ?_, fun found h ↦ ?_⟩,
    fun path found ↦ trailing_not_mem_runFile path s found⟩
  · obtain ⟨us, heq, hreads⟩ := Token.ofText_eq_ok_iff.1 hts
    obtain rfl : ts = us := List.append_cancel_right heq
    obtain ⟨es, idle, hes, htexts, hwithin, hidle⟩ := scriptEvents_of_reads hreads
    rw [hes, executed_append_finish] at hexit
    obtain ⟨hexecuted, hgoOn⟩ := executed_of_within hwithin hs hexit
    have hread : (executed prompt passes es s).map (fun p ↦ Token.ofText p.1) =
        (Token.statements ts).map (fun statement ↦ .ok (statement ++ [.eof])) := by
      rw [← htexts, ← hexecuted, List.map_map]
      rfl
    refine ⟨by rw [hes, executed_append_finish, hread], ?_, ?_⟩
    · show (play prompt passes (scriptEvents (Text.utf8 text)) s).state.statements = _
      rw [statements_play, hes, executed_append_finish]
      have hlength := congrArg List.length hread
      rw [List.length_map, List.length_map] at hlength
      rw [hlength]
    · -- until the end of the script nothing is called unfinished
      have hbefore : .error (.malformed .unfinished) ∉ (play prompt passes es s).messages :=
        unfinished_not_mem_play hwithin s
      rw [Ne, ← hidle, run, hes, play_append, if_pos hgoOn]
      show _ ∈ promptWhen prompt true ++ ((play prompt passes es s).messages ++ _) ↔ _
      rw [List.mem_append, or_iff_right (error_not_mem_promptWhen true _), List.mem_append,
        or_iff_right hbefore]
      cases idle <;> simp [play_cons, State.reply, act, FileTree.perform]
  · exact (cut_of_mem_scriptEvents (mem_of_mem_executed hp)).eq_append_semicolon hts
  · rcases List.mem_append.1 h with h | h
    · exact error_not_mem_promptWhen true _ h
    · exact trailing_not_mem_play (fun text htext ↦ cut_of_mem_scriptEvents htext) s found h

/-- A semicolon within quotes ends nothing, and a script may stop within a statement. -/
theorem run_statements_quoted :
    let text := "create table t (a); insert into t values 'x;y';\r\nprint"
    let s : State := ⟨.empty "", .empty, 0⟩
    (run none (fun _ ↦ .arrival) (Text.utf8 text) s).state.statements = 2 ∧
      .error (.malformed .unfinished) ∈
        (run none (fun _ ↦ .arrival) (Text.utf8 text) s).messages := by
  intro text s
  have hts : Token.ofText text =
      .ok ([.keyword .create, .keyword .table, .ident "t", .leftParen, .ident "a", .rightParen,
        .semicolon, .keyword .insert, .keyword .into, .ident "t", .keyword .values, .literal "x;y",
        .semicolon, .keyword .print] ++ [.eof]) := by decide +kernel
  have hexit : ∀ p ∈ executed none (fun _ ↦ .arrival) (scriptEvents (Text.utf8 text)) s,
      p.2 ≠ .ok .exit := by
    decide +kernel
  obtain ⟨-, hcount, hunfinished⟩ :=
    (run_statements none (fun _ ↦ .arrival) s).1 text _ (Database.wellFormed_empty "") hts hexit
  exact ⟨hcount, hunfinished.2 (by decide)⟩

end Session

end Tabular
