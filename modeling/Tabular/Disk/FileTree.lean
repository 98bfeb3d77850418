import Tabular.Disk.Action
import Tabular.Disk.Path
import Tabular.Keyed

/-!
# Trees of files

A working directory with all that is in it, held in memory. Paths are followed name by name, from
the working directory or from the root, and every name on the way must be that of a directory.

An entry is known by its place. The anchors of places are always there: a path may climb above the
working directory, and files may be written there, but of what stands there already the tree knows
nothing.

What can go wrong is found out in a fixed order: the path as a whole first, then name by name from
the left, and what stands at its end last. A path is looked up anew for every action, so two
spellings of one place come to the same file. Writing makes a file where there is none, but no
directory, and it never changes what stands at another place (`get?_put_of_ne`).
-/

namespace Tabular.Disk

open Text (Bytes)

/-- What stands at a place. -/
inductive Entry
  | file (content : Bytes)
  | directory
  deriving DecidableEq, Repr

/-- Entries by their places, each place at most once. -/
structure FileTree where
  entries : Keyed Place Entry
  deriving DecidableEq, Repr

/-- The greatest length of a name, in bytes. -/
def maxNameLength : Nat := 255

/-- The greatest length of a path, in bytes. -/
def maxPathLength : Nat := 4095

namespace FileTree

/-- A tree with nothing in it. -/
def empty : FileTree := ⟨[]⟩

/-- What stands at a place. -/
def get? (t : FileTree) (place : Place) : Option Entry :=
  if place.names = [] then some .directory else Keyed.get? t.entries place

/-- The tree with an entry put at a place. -/
def put (t : FileTree) (place : Place) (e : Entry) : FileTree :=
  ⟨Keyed.put t.entries place e⟩

/-- Follows names from a place, and gives the place they lead to. Whatever is not the last must be a
directory; the last may be anything, or nothing yet. -/
def follow (t : FileTree) (here : Place) : List String → Except Fault Place
  | [] => .ok here
  | name :: names =>
    match t.get? here with
    | none => .error .notFound
    | some (.file _) => .error .notADirectory
    | some .directory =>
      if maxNameLength < name.utf8ByteSize then .error .nameTooLong
      else t.follow (here.enter name) names

/-- The place that a path leads to. -/
def locate (t : FileTree) (path : String) : Except Fault Place :=
  if '\x00' ∈ path.toList then .error .zeroInName
  else if maxPathLength < path.utf8ByteSize then .error .nameTooLong
  else if path.isEmpty then .error .notFound
  else t.follow (if isAbsolute path then .root else .working) (components path)

/-- The content of the file at a path. -/
def contentAt (t : FileTree) (path : String) : Except Fault Bytes := do
  match t.get? (← t.locate path) with
  | none => .error .notFound
  | some .directory => .error .isADirectory
  | some (.file content) => .ok content

/-- The tree with a file written at a path, over any file that was there. -/
def write (t : FileTree) (path : String) (content : Bytes) : Except Fault FileTree := do
  let place ← t.locate path
  match t.get? place with
  | some .directory => .error .isADirectory
  | _ => .ok (t.put place (.file content))

/-- Does what an action asks for, and gives its result and the files as they are then. -/
def perform {α : Type} (t : FileTree) : Action α → α × FileTree
  | .done result => (result, t)
  | .read path next => (next (t.contentAt path), t)
  | .write path content next =>
    match t.write path content with
    | .ok t' => (next (.ok ()), t')
    | .error fault => (next (.error fault), t)

/-- An anchor is a directory, whatever has been written. -/
@[simp] theorem get?_anchor (t : FileTree) (anchor : Anchor) :
    t.get? ⟨anchor, []⟩ = some .directory := rfl

theorem get?_put (t : FileTree) {place : Place} (hne : place.names ≠ []) (e : Entry) :
    (t.put place e).get? place = some e := by
  rw [get?, if_neg hne]
  exact Keyed.get?_put_self ..

/-- **Writing at one place leaves every other place alone.** -/
theorem get?_put_of_ne (t : FileTree) {place other : Place} (h : other ≠ place) (e : Entry) :
    (t.put place e).get? other = t.get? other := by
  unfold get? put
  rw [Keyed.get?_put_of_ne _ h e]

end FileTree

end Tabular.Disk
