import Tabular.Disk.Action
import Tabular.Text.Bytes
import Tabular.Text.Span

/-!
# Scripts

A script is cut into statements before anything is carried out. A statement ends at a semicolon
outside quotes; it may go on over several lines, and a line may hold several. Quotes end with their
line, closed or not, as literals do.

What a script comes to is a list of events: its statements, the ends of its lines between them, and
what is found at its end. `scriptEvents` gives all of them for a script that is there from the
beginning; `Splitter.piece` gives them line by line, for one that is read while it is carried out.

Where a line ends matters twice. It closes quotes, so that a quote which is left open spoils no more
than its line; and what is waiting goes on in the next line with a line feed in between, which
separates words as any blank does. Blanks alone are nothing that waits (`Splitter.idle`): a session
shows its prompt at such a line's end, and a script may end there.
-/

namespace Tabular

/-- A text waiting for its semicolon, and whether it stands within quotes. -/
structure Splitter where
  pending : String
  inLiteral : Bool
  deriving DecidableEq, Repr

/-- What happens in the course of a script. -/
inductive Event
  /-- A statement is complete, with its semicolon. -/
  | statement (text : String)
  /-- A line ends; `idle` if only blanks are waiting for a semicolon then. -/
  | lineEnd (idle : Bool)
  /-- The script cannot be read on. -/
  | unreadable (fault : Disk.Fault)
  /-- The script ends; `idle` as for a line. -/
  | finish (idle : Bool)
  deriving DecidableEq, Repr

namespace Splitter

/-- Nothing is waiting. -/
def start : Splitter :=
  ⟨"", false⟩

/-- Whether only blanks are waiting. -/
def idle (s : Splitter) : Bool :=
  s.pending.toList.all Text.isBlank

/-- Takes one character of a line, which may complete a statement. -/
def char (s : Splitter) (c : Char) : Option String × Splitter :=
  if c = ';' ∧ s.inLiteral = false then (some (s.pending.push c), { s with pending := "" })
  else (none, ⟨s.pending.push c, if c = '\'' then !s.inLiteral else s.inLiteral⟩)

/-- Takes characters of a line, and gives the statements completed among them. -/
def chars (s : Splitter) : List Char → List String × Splitter
  | [] => ([], s)
  | c :: cs =>
    match s.char c with
    | (some text, s') =>
      let (texts, s'') := s'.chars cs
      (text :: texts, s'')
    | (none, s') => s'.chars cs

/-- The end of a line: quotes end, and a line break is added to what is waiting. -/
def endLine (s : Splitter) : Splitter :=
  ⟨s.pending.push '\n', false⟩

/-- Takes a line. -/
def line (s : Splitter) (text : String) : List Event × Splitter :=
  let (texts, s') := s.chars text.toList
  (texts.map .statement ++ [.lineEnd s'.endLine.idle], s'.endLine)

/-- Takes the next piece of a script: a line with its line feed, or what is left at the end of the
script, which may be nothing. -/
def piece (s : Splitter) (bytes : Text.Bytes) : List Event × Splitter :=
  match Text.textLines bytes with
  | [] => ([.finish s.idle], s)
  | none :: _ => ([.unreadable .notUtf8], s)
  | some text :: _ => s.line text

/-- The events of the lines that follow. A line that is not text ends the script. -/
def events (s : Splitter) : List (Option String) → List Event
  | [] => [.finish s.idle]
  | none :: _ => [.unreadable .notUtf8]
  | some text :: rest =>
    let (es, s') := s.line text
    es ++ s'.events rest

end Splitter

/-- The events of a script. -/
def scriptEvents (script : Text.Bytes) : List Event :=
  Splitter.start.events (Text.textLines script)

end Tabular
