import Tabular.Error
import Tabular.Row

/-!
# Messages

What a session writes: prompts, and lines. A printed table is a heading and a line for each row, set
in by two blanks; no other line begins with a blank.

Messages are kept apart from their texts until they are written. What a session says is compared
message by message, and the order in which the rows of a table come is the only freedom there is;
the texts come in when the output is taken as a whole.
-/

namespace Tabular

/-- A piece of a session's output. -/
inductive Message
  | prompt (text : String)
  | loaded (table : String)
  | stored (table : String)
  /-- The heading of a table that is printed. -/
  | contentsOf (table : String)
  /-- The heading of a query's result. -/
  | results
  | row (r : Row)
  | error (e : Error)
  deriving DecidableEq, Repr

namespace Message

/-- The text of a message. A prompt does not end its line; all others are lines. -/
def text : Message → String
  | prompt text => text
  | loaded table => "Loaded " ++ table ++ ".db\n"
  | stored table => "Stored " ++ table ++ ".db\n"
  | contentsOf table => "Contents of " ++ table ++ ":\n"
  | results => "Search results:\n"
  | row r => "  " ++ r.spaced ++ "\n"
  | error e => "Error: " ++ e.message ++ "\n"

/-- The text of an output. -/
def render (messages : List Message) : String :=
  String.join (messages.map text)

end Message

end Tabular
