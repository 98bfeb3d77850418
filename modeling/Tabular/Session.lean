import Tabular.Database
import Tabular.Disk.Reader
import Tabular.Message
import Tabular.Script

/-!
# Sessions

A session carries out a script against a database and writes what comes of it. A statement that
fails is reported and the session goes on; it ends with the script, at `exit`, or where the script
cannot be read.

`Session.act` says what one event does, and needs at most one file for it. `Session.play` does this
for all events of a list over a tree of files, and gives the whole transcript; by `play_append` it
makes no difference whether events are played at once or one list after another.

`Session.run` plays a script that is there from the beginning. `Session.runFile` plays one that is
read from a file of the tree on the way, and which a statement may store a table over.

The step is an `Action`, so that the program can take it on the disk and the theorems can take it in
a tree of files. In which orders a statement goes through rows is told by the number of the
statement: each may choose its own, and no two need to agree. A prompt is written over and above
what a session says of its statements, and changes nothing else.
-/

namespace Tabular

open Disk (Action FileTree Reader)

/-- Where a session goes from an event. -/
inductive Flow
  | goOn
  | finish
  | stop (fault : Disk.Fault)
  /-- A value was asked for where there is none. -/
  | outOfRange
  deriving DecidableEq, Repr

/-- What came of an event. -/
structure Reply where
  messages : List Message
  database : Database
  flow : Flow
  deriving DecidableEq, Repr

/-- The rows of a table under a heading. -/
def Table.print (heading : Message) (order : RowOrder) (t : Table) : List Message :=
  heading :: (order.list t.rows).map .row

/-- What a session writes about a statement's outcome, and where it goes from there. -/
def Database.report (db : Database) (order : RowOrder) : Except Failure Output → List Message × Flow
  | .ok (.created _) => ([], .goOn)
  | .ok (.inserted _ _) => ([], .goOn)
  | .ok (.loaded name) => ([.loaded name], .goOn)
  | .ok (.stored name) => ([.stored name], .goOn)
  | .ok (.print name) =>
    match db.table? name with
    | some t => (t.print (.contentsOf name) order, .goOn)
    | none => ([], .goOn)
  | .ok (.rows t) => (t.print .results order, .goOn)
  | .ok .exit => ([], .finish)
  | .error (.error e) => ([.error e], .goOn)
  | .error .outOfRange => ([], .outOfRange)

namespace Session

/-- The prompt, where there is one to show and nothing is waiting to be completed. -/
def promptWhen (prompt : Option String) (idle : Bool) : List Message :=
  if idle then (prompt.map Message.prompt).toList else []

/-- What an event does to a database. Sessions without a prompt are those that nobody watches. -/
def act (prompt : Option String) (passes : Passes) (db : Database) : Event → Action Reply
  | .statement text =>
    (db.execute passes text).map fun (outcome, db') =>
      let (messages, flow) := db'.report passes.shown outcome
      ⟨messages, db', flow⟩
  | .lineEnd idle => .done ⟨promptWhen prompt idle, db, .goOn⟩
  | .unreadable fault => .done ⟨[], db, .stop fault⟩
  | .finish idle => .done ⟨if idle then [] else [.error (.malformed .unfinished)], db, .finish⟩

/-- A database, the files it can reach, and how many statements it has carried out. -/
structure State where
  database : Database
  files : FileTree
  statements : Nat
  deriving DecidableEq, Repr

/-- What a session wrote over a number of events, what holds after them, and where it goes from
there. -/
structure Transcript where
  messages : List Message
  state : State
  flow : Flow
  deriving DecidableEq, Repr

/-- The transcript with messages written before it. -/
def Transcript.after (messages : List Message) (t : Transcript) : Transcript :=
  { t with messages := messages ++ t.messages }

/-- The state after an event. -/
def State.next (s : State) (event : Event) (db : Database) (files : FileTree) : State where
  database := db
  files := files
  statements :=
    match event with
    | .statement _ => s.statements + 1
    | _ => s.statements

/-- Plays events, as long as the session goes on. `passes n` are the orders in which the `n`th
statement goes through rows. -/
def play (prompt : Option String) (passes : Nat → Passes) : List Event → State → Transcript
  | [], s => ⟨[], s, .goOn⟩
  | event :: rest, s =>
    let (reply, files) := s.files.perform (act prompt (passes s.statements) s.database event)
    let s' := s.next event reply.database files
    if reply.flow = .goOn then (play prompt passes rest s').after reply.messages
    else ⟨reply.messages, s', reply.flow⟩

/-- **Events may be played one list after another.** -/
theorem play_append (prompt : Option String) (passes : Nat → Passes) (es es' : List Event)
    (s : State) :
    play prompt passes (es ++ es') s =
      let t := play prompt passes es s
      if t.flow = .goOn then (play prompt passes es' t.state).after t.messages else t := by
  induction es generalizing s with
  | nil => simp [play, Transcript.after]
  | cons event rest ih =>
    simp only [List.cons_append, play, ih]
    split
    · simp only [Transcript.after, List.append_assoc]
      split <;> rfl
    · rfl

/-- Runs a script. The prompt is shown once before anything is read. -/
def run (prompt : Option String) (passes : Nat → Passes) (script : Text.Bytes) (s : State) :
    Transcript :=
  (play prompt passes (scriptEvents script) s).after (promptWhen prompt true)

/-- Plays what a reader hands out, piece by piece, each from the file as it is by then. -/
def playFile (passes : Nat → Passes) (r : Reader) (splitter : Splitter) (s : State) : Transcript :=
  match _ : r.line s.files with
  | .error fault => play none passes [.unreadable fault] s
  | .ok (bytes, r') =>
    let (events, splitter') := splitter.piece bytes
    let t := play none passes events s
    if bytes ≠ [] ∧ t.flow = .goOn then (playFile passes r' splitter' t.state).after t.messages
    else t
termination_by r.left
decreasing_by
  have hlen := Reader.length_add_left ‹r.line s.files = _›
  have hpos := List.length_pos_iff.mpr (And.left ‹bytes ≠ [] ∧ _›)
  omega

/-- Runs the script in a file of the tree, without a prompt. -/
def runFile (passes : Nat → Passes) (path : String) (s : State) : Transcript :=
  playFile passes (.start path) .start s

end Session

end Tabular
