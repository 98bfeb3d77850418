import Tabular.Disk.Action
import Tabular.Disk.Path
import Tabular.Table

/-!
# Tables in files

A stored table is a line with its titles and a line for each row, commas between the fields.
`decode` reads such a file from the top and reports the first line that does not fit; `encode`
writes one.

Reading stops at the first line that is wrong, whatever is wrong with it, and lines after it are not
looked at: that they are no text, for one thing, is not found out. A file without a line has no
titles and is refused, and so is one whose titles repeat. A row that repeats another is left out
without a word, as it is when it is inserted.

The two demands on the disk, `load` and `save`, name their errors: that there is no file is told
apart from every other fault of reading, and the name in a message is that of the table and not the
path.
-/

namespace Tabular.Table

open Disk (Action)
open Text (Bytes)

/-- The lines of a table's file. -/
def fileLines (order : RowOrder) (t : Table) : List String :=
  Text.joinFields t.titles :: (order.list t.rows).map Row.joined

/-- The content of a table's file: its lines, each ended by a line feed. -/
def encode (order : RowOrder) (t : Table) : Bytes :=
  (t.fileLines order).flatMap fun line ↦ Text.utf8 line ++ [Text.lf]

/-- The table with the rows that lines hold, unless one of them does not fit or is not text: the
first such line is reported. -/
def addLines (name : String) (t : Table) : List (Option String) → Except Error Table
  | [] => .ok t
  | none :: _ => .error (.storage (.reading name .notUtf8))
  | some line :: lines =>
    match t.add (Row.ofLine line) with
    | .ok (_, t') => t'.addLines name lines
    | .error e => .error e

/-- The table of the given name that a file's lines hold. -/
def ofLines (name : String) : List (Option String) → Except Error Table
  | [] => .error (.storage .noHeader)
  | none :: _ => .error (.storage (.reading name .notUtf8))
  | some header :: lines =>
    match new (Text.splitFields header) with
    | .ok t => t.addLines name lines
    | .error e => .error e

/-- The table of the given name that a file holds. -/
def decode (name : String) (content : Bytes) : Except Error Table :=
  ofLines name (Text.textLines content)

/-- Reads the table of a name from its file in a directory. -/
def load (dir name : String) : Action (Except Error Table) :=
  .read (Disk.tablePath dir name) fun
    | .ok content => decode name content
    | .error .notFound => .error (.storage (.missing name))
    | .error fault => .error (.storage (.reading name fault))

/-- Writes a table to the file of a name in a directory. -/
def save (order : RowOrder) (t : Table) (dir name : String) : Action (Except Error Unit) :=
  .write (Disk.tablePath dir name) (t.encode order) fun
    | .ok () => .ok ()
    | .error fault => .error (.storage (.writing name fault))

end Tabular.Table
