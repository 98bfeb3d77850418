import Tabular.Disk.Action
import Tabular.Token

/-!
# Errors

An error is kept as its cause; the words are added in one place, `Error.message`, when it is shown.
A `Failure` is an error that can be shown or the discovery that a value was asked for where there is
none, which no message describes: it means that a caller broke a rule of this library.

Causes carry what their words show and no more: a name, a title, a token or a character, two widths.
Faults of tokens and of statements are kept together in `Malformation`, since they are shown with
the same words before them, and faults of files in `StorageFault`, which knows the name of the table
and what the disk said. Both have a case for words that came from elsewhere.

Operations that can only be refused give an `Error`. Those that read values by place give a
`Failure`, and `Failure.ofExcept` and `Failure.ofOption` lead from one to the other.
-/

namespace Tabular

/-- What is wrong with the text of a statement. -/
inductive Malformation
  /-- No lexeme begins with this character. -/
  | unsupported (c : Char)
  /-- An exclamation mark without the equals sign that makes it a relation. -/
  | loneBang
  | commaInLiteral
  | unterminatedLiteral
  /-- No statement begins with this token. -/
  | unrecognized (found : Token)
  | expected (wanted found : Token)
  | expectedName (found : Token)
  | expectedLiteral (found : Token)
  | expectedRelation (found : Token)
  /-- A new table is given neither columns nor a query. -/
  | expectedContents
  | unknownRelation (symbol : String)
  /-- A query lists more than two tables. -/
  | tooManyTables
  /-- A query made otherwise than from text lists no table or more than two. -/
  | tableCount
  /-- Something follows the semicolon that ended the statement. -/
  | trailing (found : Token)
  /-- The script ends within a statement. -/
  | unfinished
  /-- Any other fault, in the words it was reported in. -/
  | other (description : String)
  deriving DecidableEq, Repr

/-- The words for a malformation. -/
def Malformation.message : Malformation → String
  | unsupported c => "character " ++ Text.quoteChar c ++ " is not supported"
  | loneBang => "expected '=' after '!'"
  | commaInLiteral => "literals may not contain commas"
  | unterminatedLiteral => "unterminated literal"
  | unrecognized found => "unrecognizable command " ++ found.shown
  | expected wanted found => "expected " ++ wanted.shown ++ ", found " ++ found.shown
  | expectedName found => "expected identifier, found " ++ found.shown
  | expectedLiteral found => "expected literal, found " ++ found.shown
  | expectedRelation found => "expected relation, found " ++ found.shown
  | expectedContents => "expected '(' or 'as' after table name"
  | unknownRelation symbol => "unknown relation " ++ Text.quoteText symbol
  | tooManyTables => "at most two tables may be selected from"
  | tableCount => "select needs one or two tables"
  | trailing found => "unexpected token after statement: " ++ found.shown
  | unfinished => "unexpected end of input"
  | other description => description

/-- Why a table could not be loaded or stored. -/
inductive StorageFault
  | missing (table : String)
  | reading (table : String) (fault : Disk.Fault)
  | writing (table : String) (fault : Disk.Fault)
  /-- The file has no line at all. -/
  | noHeader
  /-- Any other fault, in the words it was reported in. -/
  | other (description : String)
  deriving DecidableEq, Repr

/-- The words for a storage fault. -/
def StorageFault.message : StorageFault → String
  | missing table => "could not find " ++ table ++ ".db"
  | reading table fault => "problem reading from " ++ table ++ ".db: " ++ fault.message
  | writing table fault => "trouble writing to " ++ table ++ ".db: " ++ fault.message
  | noHeader => "missing header in DB file"
  | other description => description

/-- Why a request of the database was refused. -/
inductive Error
  | noColumns
  | duplicateColumn (title : String)
  | rowWidth (expected found : Nat)
  | columnNotFound (title : String)
  | tableNotFound (name : String)
  | storage (fault : StorageFault)
  | malformed (fault : Malformation)
  deriving DecidableEq, Repr

namespace Error

/-- The words for an error. -/
def message : Error → String
  | noColumns => "a table needs at least one column"
  | duplicateColumn title => "duplicate column name: " ++ title
  | rowWidth expected found =>
    "improper number of entries in row: expected " ++ toString expected ++ ", found " ++
      toString found
  | columnNotFound title => "unknown column: " ++ title
  | tableNotFound name => "unknown table: " ++ name
  | storage fault => fault.message
  | malformed fault => "syntax error: " ++ fault.message

/-- Whether the error is about a table's schema: an empty or repeated column list, or a row of
another width than its table. -/
def isSchema : Error → Bool
  | noColumns | duplicateColumn _ | rowWidth _ _ => true
  | _ => false

end Error

/-- Why a computation has no result. -/
inductive Failure
  /-- The request was refused, and the error can be shown. -/
  | error (e : Error)
  /-- A row, a value or a token was read at a place that does not exist. -/
  | outOfRange
  deriving DecidableEq, Repr

namespace Failure

/-- A malformed statement as a failure. -/
abbrev malformed (fault : Malformation) : Failure :=
  .error (.malformed fault)

/-- A computation that can only be refused. -/
def ofExcept {α : Type} : Except Error α → Except Failure α
  | .ok a => .ok a
  | .error e => .error (.error e)

/-- A read that finds nothing is out of range. -/
def ofOption {α : Type} : Option α → Except Failure α
  | some a => .ok a
  | none => .error .outOfRange

end Failure

end Tabular
