import Tabular.Disk.FileTree
import Tabular.Proofs.Results
import Tabular.Proofs.Text.Lines

/-!
# Files whose lines are in different orders

Two trees of files may differ in the order of the lines in their files, after the first line of
each (`FileTree.Reordered`). Paths lead to the same places in both, and what is written in parallel
leaves them as they were to each other. So two computations that do not depend on the order of lines
(`Action.Parallel`) may be performed over both (`Disk.Action.Parallel.perform`).

The relation on contents asks for more than the same lines. All lines after the first hold equally
many commas, since it could matter otherwise which of two rows of wrong width comes first; and no
line holds a line feed, since the lines would not be found again. Files that nobody has stored a
table in are related to themselves only, whatever they hold.

A computation over the disk is a result or one demand, so being parallel is told by its shape
(`Action.Parallel`): both ask for the same path, and what they go on with takes related answers to
related results. Everything that a statement does with the disk is put together by
`Action.Parallel.map`.
-/

namespace Tabular

open Text (Bytes)

/-- The contents are the same, or the same but for the order of the lines after the first. Those
lines all hold the same number of commas, so that one of them is a row of a table only if each of
them is. -/
inductive Text.Reordered : Bytes → Bytes → Prop
  | refl (content : Bytes) : Reordered content content
  | lines {header : String} {lines lines' : List String} {commas : Nat} (hperm : lines.Perm lines')
    (hlf : ∀ line ∈ header :: lines, '\n' ∉ line.toList)
    (hcommas : ∀ line ∈ lines, line.toList.count ',' = commas) :
    Reordered (ofLines (header :: lines)) (ofLines (header :: lines'))

namespace Disk

/-- Both stand for a directory, or for files whose lines may be in different orders. -/
inductive Entry.Reordered : Entry → Entry → Prop
  | file {content content' : Bytes} (h : Text.Reordered content content') :
    Reordered (.file content) (.file content')
  | directory : Reordered .directory .directory

/-- The same places are taken in both trees, by directories or by files whose lines may be in
different orders. -/
def FileTree.Reordered (t t' : FileTree) : Prop :=
  ∀ place, Option.Rel Entry.Reordered (t.get? place) (t'.get? place)

/-- The computations ask for the same of the disk, and come to related results if the files that
they read differ in the order of lines only. -/
inductive Action.Parallel {α β : Type} (R : α → β → Prop) : Action α → Action β → Prop
  | done {a : α} {b : β} (h : R a b) : Parallel R (.done a) (.done b)
  | read {path : String} {next : Except Fault Bytes → α} {next' : Except Fault Bytes → β}
    (h : ∀ answer answer', Tabular.Parallel Text.Reordered answer answer' →
      R (next answer) (next' answer')) : Parallel R (.read path next) (.read path next')
  | write {path : String} {content content' : Bytes} {next : Except Fault Unit → α}
    {next' : Except Fault Unit → β} (hcontent : Text.Reordered content content')
    (h : ∀ answer, R (next answer) (next' answer)) :
    Parallel R (.write path content next) (.write path content' next')

/-- Functions of parallel results that keep them related make parallel computations. -/
theorem Action.Parallel.map {α β γ δ : Type} {R : α → β → Prop} {S : γ → δ → Prop} {f : α → γ}
    {g : β → δ} {x : Action α} {y : Action β} (h : Parallel R x y)
    (hmap : ∀ a b, R a b → S (f a) (g b)) : Parallel S (x.map f) (y.map g) := by
  cases h with
  | done h => exact .done (hmap _ _ h)
  | read h => exact .read fun _ _ hanswer ↦ hmap _ _ (h _ _ hanswer)
  | write hcontent h => exact .write hcontent fun answer ↦ hmap _ _ (h answer)

namespace FileTree

variable {t t' : FileTree}

theorem Reordered.refl (t : FileTree) : t.Reordered t := by
  intro place
  cases t.get? place with
  | none => exact .none
  | some e =>
    cases e with
    | file content => exact .some (.file (.refl content))
    | directory => exact .some .directory

/-- Related entries that are put at the same place of related trees leave them related. -/
theorem Reordered.put (h : t.Reordered t') {place : Place} (hne : place.names ≠ []) {e e' : Entry}
    (he : e.Reordered e') : (t.put place e).Reordered (t'.put place e') := by
  intro other
  by_cases heq : other = place
  · subst heq
    rw [get?_put t hne, get?_put t' hne]
    exact .some he
  · rw [get?_put_of_ne t heq, get?_put_of_ne t' heq]
    exact h other

/-- What stands at a place of one tree tells what stands there in the other, up to the order of
lines. -/
theorem Reordered.none_or_directory_or_file (h : t.Reordered t') (place : Place) :
    (t.get? place = none ∧ t'.get? place = none) ∨
      (t.get? place = some .directory ∧ t'.get? place = some .directory) ∨
      ∃ content content', t.get? place = some (.file content) ∧
        t'.get? place = some (.file content') ∧ Text.Reordered content content' := by
  have hplace := h place
  generalize t.get? place = entry at hplace
  generalize t'.get? place = entry' at hplace
  cases hplace with
  | none => exact .inl ⟨rfl, rfl⟩
  | some he =>
    cases he with
    | directory => exact .inr (.inl ⟨rfl, rfl⟩)
    | file hcontent => exact .inr (.inr ⟨_, _, rfl, rfl, hcontent⟩)

/-- **Paths lead to the same places**: the contents of files are not looked at on the way. -/
theorem Reordered.follow (h : t.Reordered t') (here : Place) (names : List String) :
    t.follow here names = t'.follow here names := by
  induction names generalizing here with
  | nil => rfl
  | cons name names ih =>
    rw [FileTree.follow, FileTree.follow]
    obtain ⟨hhere, hhere'⟩ | ⟨hhere, hhere'⟩ | ⟨content, content', hhere, hhere', -⟩ :=
      h.none_or_directory_or_file here
    · simp only [hhere, hhere']
    · simp only [hhere, hhere', ih]
    · simp only [hhere, hhere']

/-- Paths are found in one tree if they are found in the other, and at the same places. -/
theorem Reordered.locate (h : t.Reordered t') (path : String) : t.locate path = t'.locate path := by
  simp only [FileTree.locate, h.follow]

/-- Reading fails in both trees in the same way, or gives contents that differ in the order of
lines. -/
theorem Reordered.contentAt (h : t.Reordered t') (path : String) :
    Tabular.Parallel Text.Reordered (t.contentAt path) (t'.contentAt path) := by
  rw [FileTree.contentAt, FileTree.contentAt, ← h.locate]
  refine (Parallel.refl (fun _ ↦ rfl) (t.locate path)).bind ?_
  rintro place _ rfl
  obtain ⟨hplace, hplace'⟩ | ⟨hplace, hplace'⟩ | ⟨content, content', hplace, hplace', hcontent⟩ :=
    h.none_or_directory_or_file place
  · simp only [hplace, hplace']
    exact .error Fault.notFound
  · simp only [hplace, hplace']
    exact .error Fault.isADirectory
  · simp only [hplace, hplace']
    exact .ok hcontent

/-- Writing fails in both trees in the same way, or leaves them related. -/
theorem Reordered.write (h : t.Reordered t') (path : String) {content content' : Bytes}
    (hcontent : Text.Reordered content content') :
    Tabular.Parallel Reordered (t.write path content) (t'.write path content') := by
  rw [FileTree.write, FileTree.write, ← h.locate]
  refine (Parallel.refl (fun _ ↦ rfl) (t.locate path)).bind ?_
  rintro place _ rfl
  have hput (hdir : t.get? place ≠ some .directory) :
      (t.put place (.file content)).Reordered (t'.put place (.file content')) := by
    refine h.put (fun hnil ↦ hdir ?_) (.file hcontent)
    rw [get?, if_pos hnil]
  obtain ⟨hplace, hplace'⟩ | ⟨hplace, hplace'⟩ | ⟨old, old', hplace, hplace', -⟩ :=
    h.none_or_directory_or_file place
  · simp only [hplace, hplace']
    exact .ok (hput (by simp [hplace]))
  · simp only [hplace, hplace']
    exact .error Fault.isADirectory
  · simp only [hplace, hplace']
    exact .ok (hput (by simp [hplace]))

end FileTree

/-- **Parallel computations over trees that differ in the order of lines** come to related results,
and to trees that differ in the order of lines. -/
theorem Action.Parallel.perform {α β : Type} {R : α → β → Prop} {x : Action α} {y : Action β}
    (h : Parallel R x y) {t t' : FileTree} (ht : t.Reordered t') :
    R (t.perform x).1 (t'.perform y).1 ∧ (t.perform x).2.Reordered (t'.perform y).2 := by
  cases h with
  | done h => exact ⟨h, ht⟩
  | @read path _ _ h => exact ⟨h _ _ (ht.contentAt path), ht⟩
  | @write path content content' _ _ hcontent h =>
    have hwrite := ht.write path hcontent
    simp only [FileTree.perform]
    generalize t.write path content = result at hwrite
    generalize t'.write path content' = result' at hwrite
    cases hwrite with
    | ok hfiles => exact ⟨h _, hfiles⟩
    | error fault => exact ⟨h _, ht⟩

end Disk

end Tabular
