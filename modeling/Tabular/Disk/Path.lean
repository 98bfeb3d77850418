/-!
# Paths and places

Paths are text. Joining puts one slash between a directory and what is in it, and an absolute second
part stands for itself. `components` is the list of names between slashes, empty ones included: an
empty last name means that the path ends in a slash.

What a path leads to is a place. It is told by a directory to start from, its anchor, and by the
names that lead on from there. Anchors are directories that are there whatever else is: the working
directory, those above it, and the root of the disk. How many directories there are between the root
and the working directory is not known, and neither is the name of any, so what stands above is told
by its distance only.
-/

namespace Tabular.Disk

/-- Whether a path begins at the root of the disk. -/
def isAbsolute (path : String) : Bool :=
  path.toList.head? == some '/'

/-- A path inside a directory. The empty directory is the one that paths are relative to. -/
def joinPath (dir path : String) : String :=
  if isAbsolute path || dir.isEmpty then path
  else if dir.toList.getLast? = some '/' then dir ++ path
  else dir ++ "/" ++ path

/-- The file that holds the table of a name in a directory. -/
def tablePath (dir name : String) : String :=
  joinPath dir (name ++ ".db")

/-- The names that a path is made of. -/
def components (path : String) : List String :=
  (path.toList.splitOn '/').map String.ofList

/-! ### Places -/

/-- A directory that is there whatever else is. -/
inductive Anchor
  /-- The directory this many levels above the working directory, which is at no distance from
  itself. -/
  | above (levels : Nat)
  | root
  deriving DecidableEq, Repr

/-- The directory above an anchor. The root has none above it, and stands for it. -/
def Anchor.parent : Anchor → Anchor
  | above levels => above (levels + 1)
  | root => root

/-- The names that lead from an anchor to a place, none of which goes back. -/
structure Place where
  anchor : Anchor
  names : List String
  deriving DecidableEq, Repr

namespace Place

/-- The working directory. -/
def working : Place :=
  ⟨.above 0, []⟩

/-- The root of the disk. -/
def root : Place :=
  ⟨.root, []⟩

/-- The directory that holds a place. -/
def parent (p : Place) : Place :=
  match p.names with
  | [] => ⟨p.anchor.parent, []⟩
  | names => ⟨p.anchor, names.dropLast⟩

/-- Where a name leads from a directory. An empty name and a single dot stay there, two dots go
back. -/
def enter (p : Place) (name : String) : Place :=
  if name = "" ∨ name = "." then p
  else if name = ".." then p.parent
  else ⟨p.anchor, p.names ++ [name]⟩

end Place

end Tabular.Disk
