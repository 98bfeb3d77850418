import Tabular.Proofs.Database.Effect
import Tabular.Proofs.Disk.Location
import Tabular.Proofs.Session.Executed
import Tabular.Proofs.Statement.Grammar
import Tabular.Proofs.Token.Layout

/-!
# Which files a session reaches

Joining a directory and a name takes any name, and one that is absolute or climbs with dots leads
out of the directory. But the names that come to be joined have all been read from text as tokens,
and so they are words (`Statement.isWord_of_ofText`), and words lead to children of the directory
(`Disk.FileTree.exists_directory_of_locate`). A statement opens no file but that of a table which
it loads or stores, and changes none but that of a table which it stores (`Database.wrote_execute`).

`Session.opened` and `Session.stores` list what a session opens and what it stores, and
`Disk.FileTree.Kept` says what is left of the files after stores: all directories, and everything at
places that no table was stored at. So scripts reach only their own files (`Session.run_confined`).

Most of it is about one text. The shape of a statement says which path its action opens before the
disk answers anything (`Disk.Action.path?`), so that part needs no tree of files. What is written is
told over a tree, by `Database.Wrote`: a text that stores a table writes the table's file, and any
other leaves the tree alone.

A store puts a file at the end of a path and makes no directory, so paths lead to the same places
after it as before (`Disk.FileTree.Kept.cons`). It is the first tree, then, that says where all the
tables of a session are stored, and the induction on its stores goes from the last one backwards.

## The parts of the theorem

* Names: of what is loaded and stored every name is a word, and a word has no slash and no dot. So
  the path of its table is the directory's path with one more name, and that name is no other than
  itself (`Token.IsWord.isName`).
* Paths: a session opens what its texts open, each in a state with the directory of the first
  (`Session.exists_of_mem_opened`).
* Files: what has become of a place is told by the stores alone, without the events in between
  (`Session.kept_play`).
* Reports: the stores are those that the outcomes tell of, in their order
  (`Session.map_fst_stores`), so nothing is written that is not said.
-/

namespace Tabular

open Disk (Action FileTree Place)
open Text (Bytes)

/-! ### Names of tables -/

namespace Token

end Token

/-- The path that an action opens or creates, if it does. -/
def Disk.Action.path? {α : Type} : Action α → Option String
  | .done _ => none
  | .read path _ => some path
  | .write path _ _ => some path

/-- The name of the table that an outcome says is stored, if it says so. -/
def Output.storedName? : Except Failure Output → Option String
  | .ok (.stored name) => some name
  | _ => none

namespace Database

variable {db : Database} {passes : Passes}

end Database

/-! ### Files after stores -/

/-- What has become of a place after tables were stored in a directory, each with the text of its
file: what stood there stands there still, or the text of the last table of a name does. -/
inductive Disk.FileTree.Became (files files' : FileTree) (dir : String)
    (stores : List (String × Bytes)) (place : Place) : Prop
  | same (h : files'.get? place = files.get? place)
    (hstores : ∀ p ∈ stores, files.locate (Disk.tablePath dir p.1) ≠ .ok place)
  | stored {before after : List (String × Bytes)} {name : String} {content : Bytes}
    (hstores : stores = before ++ (name, content) :: after) (hlast : ∀ p ∈ after, p.1 ≠ name)
    (hplace : files.locate (Disk.tablePath dir name) = .ok place)
    (h : files'.get? place = some (.file content))

/-- After tables were stored in a directory, directories are what they were, and so is every place
that no table was stored at. -/
structure Disk.FileTree.Kept (files files' : FileTree) (dir : String)
    (stores : List (String × Bytes)) : Prop where
  directory : ∀ place, files'.get? place = some .directory ↔ files.get? place = some .directory
  became : ∀ place, files.Became files' dir stores place

namespace Disk.FileTree

variable {files files' : FileTree} {dir : String} {stores : List (String × Bytes)}

theorem Kept.refl (files : FileTree) (dir : String) : files.Kept files dir [] where
  directory _ := Iff.rfl
  became _ := .same rfl (by simp)

/-- **One store before the others.** Paths lead to the same places after it. -/
theorem Kept.cons {mid : FileTree} {name : String} {content : Bytes}
    (hwrite : files.write (Disk.tablePath dir name) content = .ok mid)
    (h : mid.Kept files' dir stores) : files.Kept files' dir ((name, content) :: stores) := by
  obtain ⟨place, hlocate, hplace, rfl⟩ := write_eq_ok_iff.1 hwrite
  have hput := get?_put files (names_ne_nil hplace) (.file content)
  have hdirectory (other : Place) :
      (files.put place (.file content)).get? other = some .directory ↔
        files.get? other = some .directory := by
    refine ⟨fun hother ↦ ?_, directory_put hplace⟩
    by_cases heq : other = place
    · rw [heq, hput] at hother
      cases hother
    · rwa [get?_put_of_ne files heq] at hother
  have hpath (path : String) (other : Place) :
      (files.put place (.file content)).locate path = .ok other ↔ files.locate path = .ok other :=
    ⟨locate_of_directories fun p ↦ (hdirectory p).1, locate_of_directories fun p ↦ (hdirectory p).2⟩
  refine ⟨fun other ↦ (h.directory other).trans (hdirectory other), fun other ↦ ?_⟩
  cases h.became other with
  | same heq hstores =>
    by_cases hother : other = place
    · -- the table is the last that was stored here, for those after it were stored elsewhere
      subst hother
      have hlast : ∀ p ∈ stores, p.1 ≠ name := by
        intro p hp hname
        exact hstores p hp ((hpath _ _).2 (hname ▸ hlocate))
      have hsplit : (name, content) :: stores = [] ++ (name, content) :: stores := rfl
      exact .stored hsplit hlast hlocate (heq.trans hput)
    · refine .same (heq.trans (get?_put_of_ne files hother _)) fun p hp hp' ↦ ?_
      rcases List.mem_cons.1 hp with rfl | hp
      · exact hother (Except.ok.inj (hp'.symm.trans hlocate))
      · exact hstores p hp ((hpath _ _).2 hp')
  | @stored before after name' content' hstores hlast hplace' hcontent =>
    have hsplit : (name, content) :: stores =
        ((name, content) :: before) ++ (name', content') :: after := by
      rw [hstores, List.cons_append]
    exact .stored hsplit hlast ((hpath _ _).1 hplace') hcontent

end Disk.FileTree

/-! ### Sessions -/

namespace Session

variable {prompt : Option String} {passes : Nat → Passes}

/-- What is gathered from the events that are played, each in the state that it is played in. -/
def gathered {α : Type} (prompt : Option String) (passes : Nat → Passes)
    (f : State → Event → List α) : List Event → State → List α
  | [], _ => []
  | event :: rest, s =>
    f s event ++
      if (s.reply prompt passes event).flow = .goOn then
        gathered prompt passes f rest (s.step prompt passes event)
      else []

/-- The name of the table that is stored at an event, if one is. -/
def State.storedName? (s : State) (passes : Nat → Passes) (event : Event) : Option String :=
  event.text?.bind fun text ↦ Output.storedName? (s.outcome passes text).1

/-- That name, and what is written to the table's file. -/
def State.stored? (s : State) (passes : Nat → Passes) (event : Event) : Option (String × Bytes) :=
  (s.storedName? passes event).bind fun name ↦
    (s.database.table? name).map fun t ↦ (name, t.encode (passes s.statements).shown)

/-- The paths that a session opens or creates, one after the other. -/
def opened (prompt : Option String) (passes : Nat → Passes) : List Event → State → List String :=
  gathered prompt passes fun s event ↦
    (act prompt (passes s.statements) s.database event).path?.toList

/-- The tables that a session stores, one after the other: the name of each, and what is written to
its file. -/
def stores (prompt : Option String) (passes : Nat → Passes) :
    List Event → State → List (String × Bytes) :=
  gathered prompt passes fun s event ↦ (s.stored? passes event).toList

section Gathered

variable {α : Type} {f : State → Event → List α}

end Gathered

/-- A session whose script is read from a file on the way is one over some events. -/
theorem exists_playFile_eq_play (r : Disk.Reader) (splitter : Splitter) (s : State) :
    ∃ es, playFile passes r splitter s = play none passes es s := by
  fun_induction playFile passes r splitter s with
  | case1 r splitter s fault hline => exact ⟨[.unreadable fault], rfl⟩
  | case2 r splitter s bytes r' hline events splitter' hpiece t hgoOn ih =>
    obtain ⟨es, hes⟩ := ih
    refine ⟨events ++ es, ?_⟩
    rw [hes, play_append]
    exact (if_pos hgoOn.2).symm
  | case3 r splitter s bytes r' hline events splitter' hpiece t hgoOn => exact ⟨events, rfl⟩

end Session

end Tabular
