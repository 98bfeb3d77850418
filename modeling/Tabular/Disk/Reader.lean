import Tabular.Disk.FileTree

/-!
# Reading a file that may be written meanwhile

A reader takes a file in blocks and hands it out in lines. A block once taken stands, whatever
becomes of the file. The next one is taken from what the file holds by then, at the position where
the last one ended; and a reader that has come to the end of a file finds more if the file has grown
since.

What a reader can still hand out is bounded all the same, because files are: `length_add_left` says
that every byte handed out is one less to come.

Blocks matter because a script can store over itself: what was taken before the file was written is
still carried out, and what comes after is read from the new file, in the middle of a line if it
happens so. What such a script comes to is a list of events like any other, but which events they
are is settled only while they are played.
-/

namespace Tabular.Disk

open Text (Bytes)

/-- The size of a block, in bytes. -/
def blockSize : Nat := 8192

/-- The greatest size of a file, in bytes. There is nothing to read beyond it. -/
def maxFileSize : Nat := Nat.pow 2 63 - 1

/-- The block at a position of the file at a path; it is shorter where the file ends, and empty from
there on. -/
def FileTree.blockAt (t : FileTree) (path : String) (position : Nat) : Except Fault Bytes :=
  (t.contentAt path).map fun content ↦
    (content.drop position).take (min blockSize (maxFileSize - position))

/-- No block reaches beyond the greatest size of a file. -/
theorem FileTree.length_le_of_blockAt {t : FileTree} {path : String} {position : Nat}
    {block : Bytes} (h : t.blockAt path position = .ok block) :
    block.length ≤ maxFileSize - position := by
  unfold FileTree.blockAt at h
  cases hc : t.contentAt path with
  | error fault => simp [hc, Except.map] at h
  | ok content =>
    simp only [hc, Except.map, Except.ok.injEq] at h
    subst h
    simp only [List.length_take]
    omega

/-- A file being read: where the next block begins, and what of the blocks before it was not handed
out yet. -/
structure Reader where
  path : String
  position : Nat
  ahead : Bytes
  deriving DecidableEq, Repr

namespace Reader

/-- A reader at the beginning of the file at a path. -/
def start (path : String) : Reader :=
  ⟨path, 0, []⟩

/-- The next line with its line feed, if the reader has taken that much. -/
def line? (r : Reader) : Option (Bytes × Reader) :=
  if Text.lf ∈ r.ahead then
    let rest := r.ahead.dropWhile (· != Text.lf)
    some (r.ahead.takeWhile (· != Text.lf) ++ rest.take 1, { r with ahead := rest.drop 1 })
  else none

/-- Hands out all that was taken. -/
def flush (r : Reader) : Bytes × Reader :=
  (r.ahead, { r with ahead := [] })

/-- Takes a block. -/
def feed (r : Reader) (block : Bytes) : Reader :=
  { r with position := r.position + block.length, ahead := r.ahead ++ block }

/-- The next line with its line feed; at the end of the file, what is left, which may be nothing. -/
def line (t : FileTree) (r : Reader) : Except Fault (Bytes × Reader) :=
  match r.line? with
  | some result => .ok result
  | none =>
    match _ : t.blockAt r.path r.position with
    | .error fault => .error fault
    | .ok [] => .ok r.flush
    | .ok (byte :: bytes) => line t (r.feed (byte :: bytes))
termination_by maxFileSize - r.position
decreasing_by
  have hle := FileTree.length_le_of_blockAt ‹t.blockAt r.path r.position = _›
  simp only [List.length_cons] at hle
  simp only [feed, List.length_cons]
  omega

/-- How many bytes can be handed out from here on, however long the file is by then. -/
def left (r : Reader) : Nat :=
  maxFileSize - r.position + r.ahead.length

/-- Handing out a line that was taken already uses up its bytes. -/
theorem length_add_left_of_line? {r r' : Reader} {piece : Bytes} (h : r.line? = some (piece, r')) :
    piece.length + r'.left = r.left := by
  unfold line? at h
  split at h
  · simp only [Option.some.injEq, Prod.mk.injEq] at h
    obtain ⟨rfl, rfl⟩ := h
    have hlen := congrArg List.length
      (List.takeWhile_append_dropWhile (p := (· != Text.lf)) (l := r.ahead))
    simp only [List.length_append] at hlen
    simp only [left, List.length_append, List.length_take, List.length_drop]
    omega
  · contradiction

/-- Taking a block moves bytes from the file to the reader, and makes them neither more nor less. -/
theorem left_feed {t : FileTree} {r : Reader} {block : Bytes}
    (h : t.blockAt r.path r.position = .ok block) : (r.feed block).left = r.left := by
  have hle := FileTree.length_le_of_blockAt h
  simp only [left, feed, List.length_append]
  omega

/-- **Every byte handed out is one less to come.** -/
theorem length_add_left {t : FileTree} {r r' : Reader} {piece : Bytes}
    (h : r.line t = .ok (piece, r')) : piece.length + r'.left = r.left := by
  fun_induction line t r with
  | case1 r result hline =>
    rw [Except.ok.injEq] at h
    exact length_add_left_of_line? (h ▸ hline)
  | case2 => contradiction
  | case3 r hline hblock =>
    simp only [flush, Except.ok.injEq, Prod.mk.injEq] at h
    obtain ⟨rfl, rfl⟩ := h
    simp only [left, List.length_nil]
    omega
  | case4 r hline byte bytes hblock ih =>
    rw [ih h, left_feed hblock]

end Reader

end Tabular.Disk
