import Tabular.Text.Bytes

/-!
# What is asked of the disk

A statement of the language touches at most one file. So a computation that may need the disk is not
a program of many steps: it has its result already, or it needs one file read or one file written,
and knows its result once it is told how that went. `FileTree.perform` tells it from a tree of files
held in memory; the command line tells it from the disk.

What can go wrong on the way is told apart as far as messages tell it apart (`Fault`): the faults of
opening, reading and creating files, with the words that a message uses for each. The words are
those of the system, and for a fault that is not listed they are passed on as they came.
-/

namespace Tabular.Disk

open Text (Bytes)

/-- Why a file could not be read or created. -/
inductive Fault
  /-- The file, or a directory on the way to it, does not exist. -/
  | notFound
  /-- Something on the way to the file is itself a file. -/
  | notADirectory
  /-- The path leads to a directory. -/
  | isADirectory
  /-- A name on the path is longer than a directory can hold. -/
  | nameTooLong
  /-- The path holds a zero character, which ends names. -/
  | zeroInName
  /-- A line of the file is not UTF-8. -/
  | notUtf8
  /-- Any other fault, in the words it was reported in. -/
  | other (description : String)
  deriving DecidableEq, Repr

/-- The words for a fault. -/
def Fault.message : Fault → String
  | notFound => "No such file or directory (os error 2)"
  | notADirectory => "Not a directory (os error 20)"
  | isADirectory => "Is a directory (os error 21)"
  | nameTooLong => "File name too long (os error 36)"
  | zeroInName => "file name contained an unexpected NUL byte"
  | notUtf8 => "stream did not contain valid UTF-8"
  | other description => description

/-! ### Actions -/

/-- A computation of `α` that touches one file at most. -/
inductive Action (α : Type)
  | done (result : α)
  | read (path : String) (next : Except Fault Bytes → α)
  | write (path : String) (content : Bytes) (next : Except Fault Unit → α)

namespace Action

variable {α β : Type}

/-- The same demand, with a function applied to the result. -/
def map (f : α → β) : Action α → Action β
  | done result => done (f result)
  | read path next => read path fun r ↦ f (next r)
  | write path content next => write path content fun r ↦ f (next r)

end Action

end Tabular.Disk
