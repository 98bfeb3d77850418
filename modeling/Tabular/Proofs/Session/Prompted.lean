import Tabular.Proofs.Session.Lines

/-!
# Sessions with a prompt

A prompt is shown before a session and at the ends of lines, and does nothing else: a session with
one comes to the same end, with the same tables and files, as a session without. To say where its
prompts stand, a session without one is told line by line: `Session.stretches` gives what it writes
in the course of each line that it comes to the end of, and what waits for a semicolon there. The
session with the prompt writes the same, and a prompt after each line at whose end only blanks wait
(`Session.run_prompted`).

The induction is on the lines of the script, and `Session.play_prompted` is about a session from
anywhere in it on. What is left to write after the last line that was gone through, an error in the
middle of a line or a word about the end, is the same in both sessions and comes without a prompt;
the theorem calls it `rest` and lets it be anything.
-/

namespace Tabular

open Disk (FileTree)

/-- What is written about an outcome is no prompt. -/
theorem Database.prompt_not_mem_report (db : Database) (order : RowOrder)
    (outcome : Except Failure Output) (text : String) :
    .prompt text ∉ (db.report order outcome).1 := by
  unfold Database.report
  split <;> try simp [Table.print]
  split <;> simp

theorem Message.render_flatMap {α : Type} (f : α → List Message) (l : List α) :
    render (l.flatMap f) = String.join (l.map fun a ↦ render (f a)) := by
  induction l with
  | nil => rfl
  | cons a l ih => rw [List.flatMap_cons, render_append, ih, List.map_cons, String.join_cons]

namespace Session

variable {passes : Nat → Passes}

/-- A session that nobody watches shows no prompt. -/
theorem prompt_not_mem_play (es : List Event) (s : State) (text : String) :
    .prompt text ∉ (play none passes es s).messages := by
  intro h
  obtain ⟨event, -, s', h⟩ := exists_of_mem_play h
  cases event with
  | statement written =>
    rw [State.reply_statement] at h
    exact Database.prompt_not_mem_report _ _ _ text h
  | lineEnd idle => cases idle <;> cases h
  | unreadable fault => cases h
  | finish idle => cases idle <;> simp [State.reply, act, FileTree.perform] at h

/-! ### One line -/

/-- Statements do not know about the prompt. -/
theorem play_statements (prompt : Option String) (texts : List String) (s : State) :
    play prompt passes (texts.map .statement) s = play none passes (texts.map .statement) s := by
  induction texts generalizing s with
  | nil => rfl
  | cons text texts ih =>
    have hreply : s.reply prompt passes (.statement text) = s.reply none passes (.statement text) :=
      rfl
    have hstep : s.step prompt passes (.statement text) = s.step none passes (.statement text) :=
      rfl
    rw [List.map_cons, play_cons, play_cons, hreply, hstep, ih]

/-- **A line does the same with a prompt as without**, and shows it at its end if the session goes
on from there. -/
theorem play_line (prompt : Option String) (splitter : Splitter) (line : String) (s : State) :
    play prompt passes (splitter.line line).1 s =
      let t := play none passes (splitter.line line).1 s
      { t with messages := t.messages ++
          if t.flow = .goOn then promptWhen prompt (splitter.line line).2.idle else [] } := by
  rw [Splitter.line, play_append, play_append, play_statements prompt]
  generalize play none passes ((splitter.chars line.toList).1.map .statement) s = t
  have hend (prompt : Option String) (idle : Bool) (s : State) :
      play prompt passes [.lineEnd idle] s = ⟨promptWhen prompt idle ++ [], s, .goOn⟩ := rfl
  by_cases hflow : t.flow = .goOn
  · simp [hflow, hend, Transcript.after, promptWhen]
  · simp [hflow]

/-! ### All lines -/

/-- What a session writes in the course of a line, and what waits at its end. -/
structure Stretch where
  written : List Message
  pending : String

namespace Stretch

/-- Only blanks wait at the end of the line. -/
def Settled (line : Stretch) : Prop :=
  ∀ c ∈ line.pending.toList, Text.isBlank c = true

instance (line : Stretch) : Decidable line.Settled :=
  inferInstanceAs (Decidable (∀ c ∈ line.pending.toList, Text.isBlank c = true))

/-- What is written up to the next line where a prompt is shown. -/
def prompted (prompt : String) (line : Stretch) : List Message :=
  line.written ++ if line.Settled then [.prompt prompt] else []

/-- The prompt that a session shows at the end of a line is that of its stretch. -/
theorem prompted_eq (prompt : String) (written : List Message) (splitter : Splitter) :
    prompted prompt ⟨written, splitter.pending⟩ =
      written ++ promptWhen (some prompt) splitter.idle := by
  have hsettled : Settled ⟨written, splitter.pending⟩ ↔ splitter.idle = true :=
    List.all_eq_true.symm
  rw [prompted, promptWhen]
  by_cases hidle : splitter.idle = true
  · rw [if_pos hidle, if_pos (hsettled.2 hidle)]
    rfl
  · rw [if_neg hidle, if_neg (mt hsettled.1 hidle)]

end Stretch

/-- The lines that a session without a prompt comes to the ends of, with what it writes in each. A
line in which the session ends is not among them, and neither is any from there on, or from a line
on that is not text. -/
def stretches (passes : Nat → Passes) (splitter : Splitter) :
    List (Option String) → State → List Stretch
  | some line :: rest, s =>
    let t := play none passes (splitter.line line).1 s
    if t.flow = .goOn then
      ⟨t.messages, (splitter.line line).2.pending⟩ ::
        stretches passes (splitter.line line).2 rest t.state
    else []
  | none :: _, _ => []
  | [], _ => []

/-- **What a session with a prompt does from anywhere on** is what one without does, with the prompt
written after the lines that end settled. Where lines are not gone through, nothing is added. -/
theorem play_prompted (prompt : String) (splitter : Splitter) (lines : List (Option String))
    (s : State) :
    ∃ rest, (play none passes (splitter.events lines) s).messages =
        (stretches passes splitter lines s).flatMap (·.written) ++ rest ∧
      play (some prompt) passes (splitter.events lines) s =
        { play none passes (splitter.events lines) s with
          messages :=
            (stretches passes splitter lines s).flatMap (·.prompted prompt) ++ rest } := by
  induction lines generalizing splitter s with
  | nil => exact ⟨_, rfl, rfl⟩
  | cons line? lines ih =>
    cases line? with
    | none => exact ⟨_, rfl, rfl⟩
    | some line =>
      have hevents : splitter.events (some line :: lines) =
          (splitter.line line).1 ++ (splitter.line line).2.events lines := rfl
      rw [hevents, play_append, play_append, play_line (some prompt), stretches]
      generalize play none passes (splitter.line line).1 s = t
      by_cases hflow : t.flow = .goOn
      · obtain ⟨rest, hmessages, hplay⟩ := ih (splitter.line line).2 t.state
        simp only [if_pos hflow]
        refine ⟨rest, ?_, ?_⟩
        · rw [Transcript.after, hmessages, List.flatMap_cons, List.append_assoc]
        · rw [hplay, List.flatMap_cons, Stretch.prompted_eq, List.append_assoc]
          rfl
      · -- the session ends in the line, and there is no line after it
        simp only [if_neg hflow]
        refine ⟨t.messages, rfl, ?_⟩
        rw [List.append_nil]
        rfl

/-- **A prompt does not influence a session.** With it, a session ends the same and leaves the same
tables and files behind. It writes the same too, with the prompt before everything, after each line
that the session comes to the end of with nothing but blanks waiting, and nowhere else. -/
theorem run_prompted (prompt : String) (passes : Nat → Passes) (script : Text.Bytes) (s : State) :
    let t := run none passes script s
    let w := run (some prompt) passes script s
    let lines := stretches passes .start (Text.textLines script) s
    w.flow = t.flow ∧ w.state = t.state ∧ (∀ text, .prompt text ∉ t.messages) ∧
      ∃ rest, t.messages = lines.flatMap (·.written) ++ rest ∧
        w.messages = .prompt prompt :: (lines.flatMap (·.prompted prompt) ++ rest) ∧
        Message.render t.messages =
          String.join (lines.map fun line ↦ Message.render line.written) ++ Message.render rest ∧
        Message.render w.messages =
          prompt ++ (String.join (lines.map fun line ↦
            Message.render line.written ++ if line.Settled then prompt else "") ++
              Message.render rest) := by
  intro t w lines
  obtain ⟨rest, hmessages, hplay⟩ := play_prompted prompt .start (Text.textLines script) s
  have ht : t.messages = lines.flatMap (·.written) ++ rest := hmessages
  have hw : w = { t with
      messages := .prompt prompt :: (lines.flatMap (·.prompted prompt) ++ rest) } :=
    congrArg (Transcript.after [.prompt prompt]) hplay
  refine ⟨by rw [hw], by rw [hw], prompt_not_mem_play _ s, rest, ht, by rw [hw], ?_, ?_⟩
  · rw [ht, Message.render_append, Message.render_flatMap]
  · have hprompted (line : Stretch) : Message.render (line.prompted prompt) =
        Message.render line.written ++ if line.Settled then prompt else "" := by
      rw [Stretch.prompted, Message.render_append]
      split <;> simp [Message.render, Message.text]
    rw [hw, ← List.singleton_append, Message.render_append, Message.render_append,
      Message.render_flatMap, funext hprompted]
    simp [Message.render, Message.text]

/-- A statement over two lines, one that fails before a second one in its line, and an `exit` in the
middle of a line. -/
example :
    let script := Text.utf8 "create table t\n(a); \nprint u; insert into t\nvalues 'x'; exit;\n"
    (run (some "> ") (fun _ ↦ .arrival) script ⟨.empty "", .empty, 0⟩).messages =
      [.prompt "> ", .prompt "> ", .error (.tableNotFound "u")] := by
  decide +kernel

end Session

end Tabular
