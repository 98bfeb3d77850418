import Tabular.Proofs.Script.Continued
import Tabular.Proofs.Session.Executed

/-!
# Sessions one after another

A session leaves two things to a session after it, tables and files. Within one session the lines
before leave a third thing, the text that is waiting for its semicolon. If a script is whole lines
and ends idle, this text is blank, and nothing depends on it; so the script and another one can be
carried out in one session or in two (`Session.run_append`).

What is needed for it about the end of the first script is that the session came there: it was not
ended by an `exit`, of which `Session.Exits` speaks, nor by a line that is not text.

The second script is not cut in the same way in the two sessions. Blanks that were left waiting come
to stand before its first statement in the one and not in the other, so the texts that are handed to
the database may differ. But they read as the same tokens (`Session.Event.ReadAlike`), and an event
is played for what its text reads as and for nothing else (`Session.act_eq_of_readAlike`). This is
also why the theorem compares readings and not texts (`Session.readings`).

## What each hypothesis is for

* Whole lines: otherwise the first line of the second script would go on with the last of the first.
* The end without an `exit`: otherwise the second script would not be played at all.
* Nothing unfinished: otherwise what is waiting would come to stand before the second script.

An error in the first script is no obstacle. A refused statement leaves nothing behind, neither in
the database nor in the splitter.
-/

namespace Tabular

open Disk (FileTree)

/-- A session is ended by an outcome that says so, and by no other. -/
theorem Database.report_finish_iff {db : Database} {order : RowOrder}
    {outcome : Except Failure Output} :
    (db.report order outcome).2 = .finish ↔ outcome = .ok .exit := by
  unfold Database.report
  split <;> try simp
  split <;> simp

namespace Session

variable {prompt : Option String} {passes : Nat → Passes}

/-! ### Exits -/

/-- An `exit` is carried out in the course of the events. -/
def Exits (prompt : Option String) (passes : Nat → Passes) (es : List Event) (s : State) : Prop :=
  ∃ p ∈ executed prompt passes es s, p.2 = .ok .exit

instance (prompt : Option String) (passes : Nat → Passes) (es : List Event) (s : State) :
    Decidable (Exits prompt passes es s) :=
  inferInstanceAs (Decidable (∃ p ∈ executed prompt passes es s, p.2 = .ok .exit))

/-- A text ends the session if an `exit` comes of it, and only then. -/
theorem State.reply_finish_iff {s : State} {text : String} :
    (s.reply prompt passes (.statement text)).flow = .finish ↔
      (s.outcome passes text).1 = .ok .exit := by
  rw [reply_statement]
  exact Database.report_finish_iff

/-- An `exit` is the first event, or comes after it in a session that goes on. -/
theorem exits_cons_iff {event : Event} {es : List Event} {s : State} :
    Exits prompt passes (event :: es) s ↔
      (∃ text, event = .statement text ∧ (s.outcome passes text).1 = .ok .exit) ∨
        ((s.reply prompt passes event).flow = .goOn ∧
          Exits prompt passes es (s.step prompt passes event)) := by
  have hfirst : (∃ p ∈ event.text?.toList.map fun text ↦ (text, (s.outcome passes text).1),
      p.2 = .ok .exit) ↔ ∃ text, event = .statement text ∧
        (s.outcome passes text).1 = .ok .exit := by
    cases event <;> simp [Event.text?]
  rw [Exits, executed, ← hfirst]
  simp only [List.mem_append, or_and_right, exists_or]
  refine or_congr_right ?_
  by_cases hflow : (s.reply prompt passes event).flow = .goOn
  · rw [if_pos hflow]
    exact (and_iff_right hflow).symm
  · simp [hflow]

/-- **A session ends where an `exit` is carried out.** -/
theorem Exits.flow_eq {es : List Event} {s : State} (h : Exits prompt passes es s) :
    (play prompt passes es s).flow = .finish := by
  induction es generalizing s with
  | nil => simp [Exits, executed] at h
  | cons event es ih =>
    rw [play_cons]
    rcases exits_cons_iff.1 h with ⟨text, rfl, hexit⟩ | ⟨hflow, h⟩
    · have hflow : (s.reply prompt passes (.statement text)).flow = .finish :=
        State.reply_finish_iff.2 hexit
      rw [hflow, if_neg (by simp)]
    · rw [if_pos hflow]
      exact ih h

/-- Until a script ends, nothing else ends the session as if it had. -/
theorem exits_of_finish {es : List Event} {s : State} (hes : ∀ e ∈ es, e.Within)
    (h : (play prompt passes es s).flow = .finish) : Exits prompt passes es s := by
  induction es generalizing s with
  | nil => cases h
  | cons event es ih =>
    rw [play_cons] at h
    rw [exits_cons_iff]
    split at h
    · next hflow => exact .inr ⟨hflow, ih (fun e he ↦ hes e (List.mem_cons_of_mem event he)) h⟩
    · cases event with
      | statement text => exact .inl ⟨text, rfl, State.reply_finish_iff.1 h⟩
      | lineEnd idle => cases h
      | unreadable fault => exact absurd (hes (.unreadable fault) (by simp)) id
      | finish idle => exact absurd (hes (.finish idle) (by simp)) id

/-- **Over a well-formed database only an `exit` ends a session before its script does.** -/
theorem goOn_iff_not_exits {es : List Event} {s : State} (hes : ∀ e ∈ es, e.Within)
    (hs : s.database.WellFormed) :
    (play prompt passes es s).flow = .goOn ↔ ¬ Exits prompt passes es s := by
  constructor
  · intro hgoOn hexit
    rw [hexit.flow_eq] at hgoOn
    cases hgoOn
  · exact fun hexit ↦ (executed_of_within hes hs fun p hp h ↦ hexit ⟨p, hp, h⟩).2

/-- What comes after an `exit` is not played. -/
theorem Exits.play_append {es : List Event} {s : State} (h : Exits prompt passes es s)
    (more : List Event) : play prompt passes (es ++ more) s = play prompt passes es s := by
  have hflow : (play prompt passes es s).flow ≠ .goOn := by
    rw [h.flow_eq]
    simp
  rw [Session.play_append]
  exact if_neg hflow

/-- Events that hand no text to the database add no `exit`. -/
theorem exits_append_of_quiet {es more : List Event} {s : State}
    (hmore : ∀ e ∈ more, e.text? = none) :
    Exits prompt passes (es ++ more) s ↔ Exits prompt passes es s := by
  rw [Exits, Exits, executed_append_of_quiet hmore]

/-- An `exit` in some events and more is in the first, or in the others if the session comes to
them. -/
theorem exits_append_iff {es es' : List Event} {s : State} :
    Exits prompt passes (es ++ es') s ↔ Exits prompt passes es s ∨
      ((play prompt passes es s).flow = .goOn ∧
        Exits prompt passes es' (play prompt passes es s).state) := by
  rw [Exits, executed_append]
  simp only [List.mem_append, or_and_right, exists_or]
  refine or_congr_right ?_
  by_cases hflow : (play prompt passes es s).flow = .goOn
  · rw [if_pos hflow]
    exact (and_iff_right hflow).symm
  · simp [hflow]

/-! ### Statements that read alike -/

/-- Nothing of a statement's text matters but what it reads as. -/
theorem act_eq_of_readAlike {event event' : Event} (h : event.ReadAlike event')
    (prompt : Option String) (orders : Passes) (db : Database) :
    act prompt orders db event = act prompt orders db event' := by
  cases h with
  | refl => rfl
  | statement htokens => rw [act, act, Database.execute, Database.execute, htokens]

theorem State.step_eq_of_readAlike {event event' : Event} (h : event.ReadAlike event')
    (prompt : Option String) (passes : Nat → Passes) (s : State) :
    s.reply prompt passes event = s.reply prompt passes event' ∧
      s.step prompt passes event = s.step prompt passes event' := by
  have hact := act_eq_of_readAlike h prompt (passes s.statements) s.database
  have hreply : s.reply prompt passes event = s.reply prompt passes event' := by
    rw [reply, hact]
    rfl
  refine ⟨hreply, ?_⟩
  rw [step, step, hreply, hact]
  cases h <;> rfl

/-- **Events that read alike are played alike.** -/
theorem play_eq_of_readAlike {es es' : List Event} (h : List.Forall₂ Event.ReadAlike es es')
    (s : State) : play prompt passes es s = play prompt passes es' s := by
  induction h generalizing s with
  | nil => rfl
  | cons hevent _ ih =>
    obtain ⟨hreply, hstep⟩ := s.step_eq_of_readAlike hevent prompt passes
    rw [play_cons, play_cons, hreply, hstep, ih]

/-- In particular blanks in front of statements make no difference to a session. -/
theorem play_eq_of_padded {es es' : List Event} (h : List.Forall₂ Event.Padded es es') (s : State) :
    play prompt passes es s = play prompt passes es' s :=
  play_eq_of_readAlike (h.imp fun _ _ ↦ Event.Padded.readAlike) s

/-- What a session reads the texts as that it carries out, and what comes of each. -/
def readings (prompt : Option String) (passes : Nat → Passes) (es : List Event) (s : State) :
    List (Except Failure (List Token) × Except Failure Output) :=
  (executed prompt passes es s).map fun (text, outcome) ↦ (Token.ofText text, outcome)

/-- The readings of the first event come first, and then those of the others if the session goes on.
-/
theorem readings_cons (event : Event) (es : List Event) (s : State) :
    readings prompt passes (event :: es) s =
      (event.text?.toList.map fun text ↦ (Token.ofText text, (s.outcome passes text).1)) ++
        if (s.reply prompt passes event).flow = .goOn then
          readings prompt passes es (s.step prompt passes event)
        else [] := by
  rw [readings, executed, List.map_append, List.map_map]
  split <;> rfl

theorem readings_append (es es' : List Event) (s : State) :
    readings prompt passes (es ++ es') s = readings prompt passes es s ++
      if (play prompt passes es s).flow = .goOn then
        readings prompt passes es' (play prompt passes es s).state
      else [] := by
  rw [readings, executed_append, List.map_append]
  split <;> rfl

theorem readings_eq_of_readAlike {es es' : List Event} (h : List.Forall₂ Event.ReadAlike es es')
    (s : State) : readings prompt passes es s = readings prompt passes es' s := by
  induction h generalizing s with
  | nil => rfl
  | @cons event event' es es' hevent _ ih =>
    obtain ⟨hreply, hstep⟩ := s.step_eq_of_readAlike hevent prompt passes
    rw [readings_cons, readings_cons, hreply, hstep, ih]
    cases hevent with
    | refl => rfl
    | statement htokens =>
      simp only [Event.text?, Option.toList_some, List.map_singleton, State.outcome,
        Database.execute, htokens]

theorem readings_eq_of_padded {es es' : List Event} (h : List.Forall₂ Event.Padded es es')
    (s : State) : readings prompt passes es s = readings prompt passes es' s :=
  readings_eq_of_readAlike (h.imp fun _ _ ↦ Event.Padded.readAlike) s

/-! ### Whole lines that end idle -/

/-- **A script whose end the session comes to**, with nothing but blanks waiting there, is the
events of its lines and then nothing. -/
theorem run_eq_lines {script : Text.Bytes} {s : State}
    (hend : (run none passes script s).flow = .finish)
    (hexit : ¬ Exits none passes (scriptEvents script) s)
    (hunfinished : .error (.malformed .unfinished) ∉ (run none passes script s).messages) :
    ∃ texts, Text.textLines script = texts.map some ∧
      (Splitter.start.lines texts).2.Padded .start ∧
      (play none passes (Splitter.start.lines texts).1 s).flow = .goOn ∧
      run none passes script s =
        { play none passes (Splitter.start.lines texts).1 s with flow := .finish } := by
  obtain ⟨texts, last, hevents, hlast⟩ := exists_scriptEvents_eq script
  have hrun : run none passes script s =
      play none passes ((Splitter.start.lines texts).1 ++ [last]) s := by
    rw [← hevents]
    rfl
  rw [hevents, exits_append_iff, not_or] at hexit
  rw [hrun, play_append] at hend hunfinished
  rw [hrun, play_append]
  by_cases hgoOn : (play none passes (Splitter.start.lines texts).1 s).flow = .goOn
  · simp only [if_pos hgoOn] at hend hunfinished ⊢
    rcases hlast with ⟨htexts, rfl⟩ | ⟨-, rfl⟩
    · cases hidle : (Splitter.start.lines texts).2.idle with
      | true =>
        refine ⟨texts, htexts, ?_, hgoOn, ?_⟩
        · exact Splitter.padded_start hidle (Splitter.inLiteral_lines rfl texts)
        · show Transcript.mk (_ ++ []) _ _ = _
          rw [List.append_nil]
          rfl
      | false =>
        rw [hidle] at hunfinished
        exact absurd (List.mem_append_right _ (List.mem_singleton.2 rfl)) hunfinished
    · cases hend
  · simp only [if_neg hgoOn] at hend
    exact absurd (exits_of_finish (fun e he ↦ Splitter.within_of_mem_lines he) hend) hexit.1

/-- **Sessions compose.** If a script is whole lines, and the session comes to its end, not to an
`exit` before it and not to a statement that is unfinished there, then this script and any other
come to the same in one session as in two, the second of which takes up what the first left behind.
All that the other script is read as is the same too: neither statements that failed before it nor
blanks that were left waiting change how it is read. -/
theorem run_append (passes : Nat → Passes) (front rest : Text.Bytes) (s : State)
    (hfront : Text.WholeLines front) (hend : (run none passes front s).flow = .finish)
    (hexit : ¬ Exits none passes (scriptEvents front) s)
    (hunfinished : .error (.malformed .unfinished) ∉ (run none passes front s).messages) :
    let t := run none passes front s
    run none passes (front ++ rest) s = (run none passes rest t.state).after t.messages ∧
      readings none passes (scriptEvents (front ++ rest)) s =
        readings none passes (scriptEvents front) s ++
          readings none passes (scriptEvents rest) t.state := by
  intro t
  obtain ⟨texts, htexts, hpadded, hgoOn, hrun⟩ := run_eq_lines hend hexit hunfinished
  have hevents : scriptEvents (front ++ rest) = (Splitter.start.lines texts).1 ++
      (Splitter.start.lines texts).2.events (Text.textLines rest) := by
    rw [scriptEvents, Text.textLines_append hfront, htexts, Splitter.events_append]
  have hrest : List.Forall₂ Event.Padded
      ((Splitter.start.lines texts).2.events (Text.textLines rest)) (scriptEvents rest) :=
    hpadded.events _
  have ht : t = { play none passes (Splitter.start.lines texts).1 s with flow := .finish } := hrun
  constructor
  · show play none passes (scriptEvents (front ++ rest)) s = _
    rw [hevents, play_append, if_pos hgoOn, play_eq_of_padded hrest, ht]
    rfl
  · have hfirst : readings none passes (scriptEvents front) s =
        readings none passes (Splitter.start.lines texts).1 s := by
      rw [scriptEvents_of_lines htexts, readings, executed_append_finish]
      rfl
    rw [hevents, readings_append, if_pos hgoOn, readings_eq_of_padded hrest, hfirst, ht]

/-- A statement that fails and blanks after the last semicolon, and then a script that breaks off at
a line that is not text. -/
theorem run_append_broken :
    let passes : Nat → Passes := fun _ ↦ .arrival
    let s : State := ⟨.empty "", .empty, 0⟩
    let front := Text.utf8 "create table t (a); print u; \t\n \n"
    let rest := Text.utf8 "insert into t values\n'x'; print t; 'y\n" ++ [255]
    Text.WholeLines front ∧ (run none passes front s).flow = .finish ∧
      (run none passes (front ++ rest) s).flow = .stop .notUtf8 ∧
      run none passes (front ++ rest) s =
        (run none passes rest (run none passes front s).state).after
          [.error (.tableNotFound "u")] := by
  intro passes s front rest
  have hfront : Text.WholeLines front := by decide +kernel
  have hend : (run none passes front s).flow = .finish := by decide +kernel
  have hexit : ¬ Exits none passes (scriptEvents front) s := by decide +kernel
  have hmessages : (run none passes front s).messages = [.error (.tableNotFound "u")] := by
    decide +kernel
  have hunfinished : .error (.malformed .unfinished) ∉ (run none passes front s).messages := by
    rw [hmessages]
    decide
  obtain ⟨hrun, -⟩ := run_append passes front rest s hfront hend hexit hunfinished
  refine ⟨hfront, hend, ?_, by rw [← hmessages, ← hrun]⟩
  rw [hrun]
  decide +kernel

end Session

end Tabular
