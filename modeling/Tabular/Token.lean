import Tabular.Text.Lower
import Tabular.Text.Printable

/-!
# Tokens

The units of the query language. A relation keeps the text it was written as, so a list of tokens
made elsewhere may hold a relation that does not exist; the reader of statements refuses it.

Tokens are shown in messages by their names, and a text in them as a quotation, so that a message
shows exactly what was found. Keywords are known by their spelling alone: `Keyword.ofWord?` lowers
the word that was read and compares it with all fifteen.
-/

namespace Tabular

/-- The reserved words. -/
inductive Keyword
  | create
  | table
  | as
  | load
  | store
  | insert
  | into
  | values
  | print
  | select
  | fromWord
  | whereWord
  | and
  | exit
  | quit
  deriving DecidableEq, Repr

namespace Keyword

/-- How the keyword is named in messages. -/
def name : Keyword → String
  | create => "Create"
  | table => "Table"
  | as => "As"
  | load => "Load"
  | store => "Store"
  | insert => "Insert"
  | into => "Into"
  | values => "Values"
  | print => "Print"
  | select => "Select"
  | fromWord => "From"
  | whereWord => "Where"
  | and => "And"
  | exit => "Exit"
  | quit => "Quit"

/-- The keyword in lower case, as statements are usually written. -/
def spelling : Keyword → String
  | create => "create"
  | table => "table"
  | as => "as"
  | load => "load"
  | store => "store"
  | insert => "insert"
  | into => "into"
  | values => "values"
  | print => "print"
  | select => "select"
  | fromWord => "from"
  | whereWord => "where"
  | and => "and"
  | exit => "exit"
  | quit => "quit"

/-- All fifteen. -/
def all : List Keyword :=
  [create, table, as, load, store, insert, into, values, print, select, fromWord, whereWord, and,
    exit, quit]

/-- The keyword that a word spells, in letters of either case. -/
def ofWord? (word : List Char) : Option Keyword :=
  let lowered := Text.lower word
  all.find? (·.spelling.toList == lowered)

end Keyword

/-- A unit of the query language. -/
inductive Token
  | keyword (k : Keyword)
  /-- A name of a table or of a column. -/
  | ident (name : String)
  /-- A value between single quotes. -/
  | literal (value : String)
  /-- A comparison, as it is written. -/
  | relation (symbol : String)
  | leftParen
  | rightParen
  | comma
  | semicolon
  | star
  /-- The end of the text. -/
  | eof
  deriving DecidableEq, Repr

namespace Token

/-- The token in a message: its name, and its text in quotes if it has one. -/
def shown : Token → String
  | keyword k => k.name
  | ident name => "Ident(" ++ Text.quoteText name ++ ")"
  | literal value => "Literal(" ++ Text.quoteText value ++ ")"
  | relation symbol => "Relation(" ++ Text.quoteText symbol ++ ")"
  | leftParen => "LeftParen"
  | rightParen => "RightParen"
  | comma => "Comma"
  | semicolon => "Semicolon"
  | star => "Star"
  | eof => "Eof"

end Token

end Tabular
