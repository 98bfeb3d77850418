import Tabular.Proofs.Disk.Location
import Tabular.Proofs.Table.Collect
import Tabular.Proofs.Text.Joined
import Tabular.Table.File

/-!
# Tables written and read back

A table that is stored and loaded again comes back, as titles in order and a set of rows, exactly if
it is `Table.Storable` (`Table.load_save_iff`). That this is needed is seen in the lines that are
read. They hold no line feed, and fields that they are split into hold no comma, so neither does
what came back. A row with a comma in a value is split into too many fields. And a carriage return
at the end of a row is lost: were the rows the same without it, there would be a longer one among
them that ends in a carriage return, and so on.

`Storable` is stated of titles and values, where it can be checked before anything is written, and
proved to be just what is needed. One direction follows the lines: none is cut in two, none is
shortened, and each is split where it was joined. The other direction never looks at how the file
came about. It takes what was read and shows of it what no reading can bring in, and where the table
had more than that, it cannot have come back.

The place where the table is stored does not matter, nor what stands there, as long as it can be
written to: what is read at a path is what was written to it.

## Who uses which half

That a storable table comes back is what storing and loading rely on. That only storable tables come
back says that the condition is no stronger than it must be, and for databases that texts have
filled it leaves one thing to ask, which is how lines end (`Table.decode_encode_iff_endsPlainly`).
-/

namespace Tabular

open Disk (Action Fault FileTree Place Entry)
open Text (EndsInCr chompText joinFields splitFields)

namespace Table

/-- What holds of tables that come back: commas and line feeds stand nowhere in them, and no line of
theirs ends in a carriage return. -/
structure Storable (t : Table) : Prop where
  title : ∀ title ∈ t.titles, ',' ∉ title.toList ∧ '\n' ∉ title.toList
  value : ∀ r ∈ t.rows, ∀ v ∈ r.values, ',' ∉ v.toList ∧ '\n' ∉ v.toList
  last_title : ∀ title ∈ t.titles.getLast?, title.toList.getLast? ≠ some '\r'
  last_value : ∀ r ∈ t.rows, ∀ v ∈ r.values.getLast?, v.toList.getLast? ≠ some '\r'

/-! ### Reading -/

/-- Lines that are texts are rows to be added. -/
theorem addLines_map_some {name : String} (t : Table) (texts : List String) :
    t.addLines name (texts.map some) = t.addAll (texts.map Row.ofLine) := by
  induction texts generalizing t with
  | nil => rfl
  | cons text texts ih =>
    rw [List.map_cons, List.map_cons, addLines, addAll]
    cases t.add (Row.ofLine text) with
    | error e => rfl
    | ok result => exact ih result.2

/-- Lines hold a table's rows if all of them are texts and the rows can be added. -/
theorem addLines_eq_ok_iff {name : String} {t t' : Table} {lines : List (Option String)} :
    t.addLines name lines = .ok t' ↔
      ∃ texts : List String, lines = texts.map some ∧ t.addAll (texts.map Row.ofLine) = .ok t' := by
  constructor
  · intro h
    have hall : ∃ texts : List String, lines = texts.map some := by
      induction lines generalizing t with
      | nil => exact ⟨[], rfl⟩
      | cons line lines ih =>
        cases line with
        | none => cases h
        | some line =>
          rw [addLines] at h
          split at h
          · obtain ⟨texts, rfl⟩ := ih h
            exact ⟨line :: texts, rfl⟩
          · cases h
    obtain ⟨texts, rfl⟩ := hall
    rw [addLines_map_some] at h
    exact ⟨texts, rfl, h⟩
  · rintro ⟨texts, rfl, h⟩
    rw [addLines_map_some, h]

/-- **What a file is read as** is told by its lines. -/
theorem decode_eq_ok_iff {name : String} {content : Text.Bytes} {t : Table} :
    decode name content = .ok t ↔ ∃ (header : String) (lines : List String),
      Text.textLines content = some header :: lines.map some ∧ (splitFields header).Nodup ∧
      (⟨splitFields header, []⟩ : Table).addAll (lines.map Row.ofLine) = .ok t := by
  unfold decode
  constructor
  · intro h
    unfold ofLines at h
    split at h
    · cases h
    · cases h
    · next header lines hlines =>
      split at h
      · next hnew =>
        obtain ⟨-, hnodup, rfl⟩ := new_eq_ok_iff.1 hnew
        obtain ⟨texts, rfl, hall⟩ := addLines_eq_ok_iff.1 h
        exact ⟨header, texts, hlines, hnodup, hall⟩
      · cases h
  · rintro ⟨header, lines, hlines, hnodup, hall⟩
    have hnew := new_eq_ok_iff.2 ⟨Text.splitFields_ne_nil header, hnodup, rfl⟩
    rw [hlines, ofLines, hnew]
    exact addLines_eq_ok_iff.2 ⟨lines, rfl, hall⟩

/-- Lines without line feeds are read as they are written, but chomped. -/
theorem textLines_flatMap {lines : List String} (h : ∀ line ∈ lines, '\n' ∉ line.toList) :
    Text.textLines (lines.flatMap fun line ↦ Text.utf8 line ++ [Text.lf]) =
      (lines.map chompText).map some := by
  induction lines with
  | nil => rfl
  | cons line lines ih =>
    rw [List.flatMap_cons, List.append_assoc, List.singleton_append,
      Text.textLines_append_lf (h line (by simp)),
      ih fun line' h' ↦ h line' (List.mem_cons_of_mem line h')]
    rfl

/-- **No line feed is read out of any file**, and no comma into a title. -/
theorem not_mem_of_decode {name : String} {content : Text.Bytes} {t : Table}
    (h : decode name content = .ok t) :
    (∀ title ∈ t.titles, ',' ∉ title.toList ∧ '\n' ∉ title.toList) ∧
      ∀ r ∈ t.rows, '\n' ∉ r.joined.toList := by
  obtain ⟨header, lines, hlines, -, hall⟩ := decode_eq_ok_iff.1 h
  obtain ⟨htitles, hfrom, -, -⟩ := addAll_eq_ok hall
  have hlf : ∀ line, some line ∈ some header :: lines.map some → '\n' ∉ line.toList := by
    rw [← hlines]
    exact fun line hline ↦ Text.not_mem_of_mem_textLines hline
  refine ⟨fun title htitle ↦ ?_, fun r hr ↦ ?_⟩
  · rw [htitles] at htitle
    refine ⟨Text.not_mem_of_mem_splitFields htitle, fun hmem ↦ ?_⟩
    exact hlf header (by simp) (Text.mem_of_mem_splitFields (by decide) htitle hmem)
  · rcases hfrom r hr with hr | hr
    · cases hr
    · obtain ⟨line, hline, rfl⟩ := List.mem_map.1 hr
      rw [Row.joined_ofLine]
      exact hlf line (by simp [hline])

/-! ### Writing and reading -/

/-- The tables have the same titles in the same order, and the same set of rows. -/
structure Alike (t t' : Table) : Prop where
  titles : t.titles = t'.titles
  rows : ∀ j, (∃ r ∈ t.rows, r.joined = j) ↔ ∃ r ∈ t'.rows, r.joined = j

variable {t t' : Table} {order : RowOrder} {name : String}

/-- A table's file has a line for the titles, a line for each row, and no other. -/
theorem mem_fileLines_iff {line : String} :
    line ∈ t.fileLines order ↔ line = joinFields t.titles ∨ ∃ r ∈ t.rows, r.joined = line := by
  simp only [fileLines, List.mem_cons, List.mem_map, (order.perm t.rows).mem_iff]

/-- No line of a file is broken by a title or a row. -/
theorem lf_not_mem_fileLines (htitle : ∀ title ∈ t.titles, '\n' ∉ title.toList)
    (hrow : ∀ r ∈ t.rows, '\n' ∉ r.joined.toList) :
    ∀ line ∈ t.fileLines order, '\n' ∉ line.toList := by
  intro line hline
  rcases mem_fileLines_iff.1 hline with rfl | ⟨r, hr, rfl⟩
  · rw [Text.mem_joinFields_iff (by decide)]
    rintro ⟨title, htitle', hmem⟩
    exact htitle title htitle' hmem
  · exact hrow r hr

theorem lf_not_mem_joined {r : Row} (h : ∀ v ∈ r.values, '\n' ∉ v.toList) :
    '\n' ∉ r.joined.toList := by
  rw [Row.joined, Text.mem_joinFields_iff (by decide)]
  rintro ⟨v, hv, hmem⟩
  exact h v hv hmem

theorem WellFormed.values_ne_nil (ht : t.WellFormed) {r : Row} (hr : r ∈ t.rows) :
    r.values ≠ [] := by
  intro hnil
  have hwidth := ht.width_eq r hr
  rw [Row.width, hnil] at hwidth
  exact ht.titles_ne_nil (List.length_eq_zero_iff.1 hwidth.symm)

/-- **What is read of a table that was written**, if none of its lines holds a line feed: each line,
but chomped. -/
theorem decode_encode_eq_ok_iff (h : ∀ line ∈ t.fileLines order, '\n' ∉ line.toList) :
    decode name (t.encode order) = .ok t' ↔ (splitFields (chompText (joinFields t.titles))).Nodup ∧
      (⟨splitFields (chompText (joinFields t.titles)), []⟩ : Table).addAll
        ((order.list t.rows).map fun r ↦ Row.ofLine (chompText r.joined)) = .ok t' := by
  have hlines : Text.textLines (t.encode order) = some (chompText (joinFields t.titles)) ::
      ((order.list t.rows).map fun r ↦ chompText r.joined).map some := by
    rw [encode, textLines_flatMap h]
    simp [fileLines, Function.comp_def]
  have hrows : ((order.list t.rows).map fun r ↦ chompText r.joined).map Row.ofLine =
      (order.list t.rows).map fun r ↦ Row.ofLine (chompText r.joined) := List.map_map
  rw [decode_eq_ok_iff, hlines, ← hrows]
  constructor
  · rintro ⟨header, lines, heq, hnodup, hall⟩
    obtain ⟨hheader, hlines⟩ := List.cons.inj heq
    obtain rfl : _ = lines := List.map_injective_iff.2 (fun _ _ ↦ Option.some.inj) hlines
    obtain rfl := Option.some.inj hheader
    exact ⟨hnodup, hall⟩
  · rintro ⟨hnodup, hall⟩
    exact ⟨_, _, rfl, hnodup, hall⟩

/-- **A storable table is read back.** -/
theorem Storable.decode_encode (ht : t.WellFormed) (hstorable : t.Storable) (order : RowOrder)
    (name : String) :
    ∃ t', decode name (t.encode order) = .ok t' ∧ t'.Alike t := by
  have hlf : ∀ line ∈ t.fileLines order, '\n' ∉ line.toList :=
    lf_not_mem_fileLines (fun title htitle ↦ (hstorable.title title htitle).2)
      fun r hr ↦ lf_not_mem_joined fun v hv ↦ (hstorable.value r hr v hv).2
  have htitles : splitFields (chompText (joinFields t.titles)) = t.titles := by
    have hchomp : chompText (joinFields t.titles) = joinFields t.titles := by
      rw [Text.chompText_eq_self_iff, Text.endsInCr_joinFields_iff]
      rintro ⟨title, htitle, hends⟩
      exact hstorable.last_title title htitle hends
    rw [hchomp, Text.splitFields_joinFields ht.titles_ne_nil
      fun title htitle ↦ (hstorable.title title htitle).1]
  have hrow : ∀ r ∈ t.rows, Row.ofLine (chompText r.joined) = r := by
    intro r hr
    have hchomp : chompText r.joined = r.joined := by
      rw [Text.chompText_eq_self_iff, Row.joined, Text.endsInCr_joinFields_iff]
      rintro ⟨v, hv, hends⟩
      exact hstorable.last_value r hr v hv hends
    rw [hchomp, Row.ofLine, Row.joined,
      Text.splitFields_joinFields (ht.values_ne_nil hr) fun v hv ↦ (hstorable.value r hr v hv).1]
  have hrows : (order.list t.rows).map (fun r ↦ Row.ofLine (chompText r.joined)) =
      order.list t.rows := by
    refine Eq.trans (List.map_congr_left fun r hr ↦ ?_) (List.map_id _)
    exact hrow r ((order.perm _).mem_iff.1 hr)
  obtain ⟨t', hall⟩ : ∃ t', (⟨t.titles, []⟩ : Table).addAll (order.list t.rows) = .ok t' :=
    exists_addAll_iff.2 fun r hr ↦ ht.width_eq r ((order.perm _).mem_iff.1 hr)
  obtain ⟨htitles', hfrom, -, hin⟩ := addAll_eq_ok hall
  refine ⟨t', (decode_encode_eq_ok_iff hlf).2 ?_, htitles', fun j ↦ ⟨?_, ?_⟩⟩
  · rw [htitles, hrows]
    exact ⟨ht.nodup_titles, hall⟩
  · rintro ⟨r, hr, rfl⟩
    rcases hfrom r hr with hr | hr
    · cases hr
    · exact ⟨r, (order.perm _).mem_iff.1 hr, rfl⟩
  · rintro ⟨r, hr, rfl⟩
    obtain ⟨s, hs, hsame⟩ := hin r ((order.perm _).mem_iff.2 hr)
    exact ⟨s, hs, hsame.symm⟩

/-- **A table that is read back is storable.** -/
theorem storable_of_decode_encode (ht : t.WellFormed) (h : decode name (t.encode order) = .ok t')
    (halike : t'.Alike t) : t.Storable := by
  obtain ⟨htitle, hjoined⟩ := not_mem_of_decode h
  rw [halike.titles] at htitle
  have hvalue : ∀ r ∈ t.rows, '\n' ∉ r.joined.toList := by
    intro r hr
    obtain ⟨r', hr', heq⟩ := (halike.rows r.joined).2 ⟨r, hr, rfl⟩
    rw [← heq]
    exact hjoined r' hr'
  have hlf : ∀ line ∈ t.fileLines order, '\n' ∉ line.toList :=
    lf_not_mem_fileLines (fun title htitle' ↦ (htitle title htitle').2) hvalue
  -- so the lines that are read are those of the table, chomped
  obtain ⟨-, hall⟩ := (decode_encode_eq_ok_iff hlf).1 h
  obtain ⟨hheader, hfrom, -, -⟩ := addAll_eq_ok hall
  replace hheader : t.titles = splitFields (chompText (joinFields t.titles)) :=
    halike.titles.symm.trans hheader
  refine ⟨htitle, fun r hr v hv ↦ ⟨?_, fun hmem ↦ ?_⟩, ?_, ?_⟩
  · -- the row was read back as wide as the table, so its line has no comma too many
    have hmem : Row.ofLine (chompText r.joined) ∈
        (order.list t.rows).map fun r ↦ Row.ofLine (chompText r.joined) :=
      List.mem_map.2 ⟨r, (order.perm _).mem_iff.2 hr, rfl⟩
    have hwidth : (Row.ofLine (chompText r.joined)).width = t.titles.length :=
      (exists_addAll_iff.1 ⟨t', hall⟩ _ hmem).trans (congrArg List.length hheader).symm
    exact Text.not_mem_of_length_splitFields (hwidth.trans (ht.width_eq r hr).symm) v hv
  · exact hvalue r hr ((Text.mem_joinFields_iff (by decide)).2 ⟨v, hv, hmem⟩)
  · -- were the header chomped, the last title would have come back without its end
    intro title htitle' hends
    have hchomp := Text.joinFields_splitFields (chompText (joinFields t.titles))
    rw [← hheader] at hchomp
    exact Text.chompText_eq_self_iff.1 hchomp.symm
      (Text.endsInCr_joinFields_iff.2 ⟨title, htitle', hends⟩)
  · -- every line of a row came back, and so is some line chomped
    intro r hr v hv hends
    have hback : ∀ line ∈ t.rows.map Row.joined, ∃ longer ∈ t.rows.map Row.joined,
        chompText longer = line := by
      intro line hline
      obtain ⟨s, hs, rfl⟩ := List.mem_map.1 hline
      obtain ⟨r', hr', heq⟩ := (halike.rows s.joined).2 ⟨s, hs, rfl⟩
      rcases hfrom r' hr' with hr' | hr'
      · cases hr'
      · obtain ⟨s', hs', rfl⟩ := List.mem_map.1 hr'
        rw [Row.joined_ofLine] at heq
        exact ⟨s'.joined, List.mem_map_of_mem ((order.perm _).mem_iff.1 hs'), heq⟩
    exact Text.not_endsInCr_of_chompText hback r.joined (List.mem_map_of_mem hr)
      (Text.endsInCr_joinFields_iff.2 ⟨v, hv, hends⟩)

/-- What is loaded after a table was stored is read from what was written. -/
theorem perform_load_of_save {files : FileTree} {dir : String}
    (h : (files.perform (t.save order dir name)).1 = .ok ()) :
    ((files.perform (t.save order dir name)).2.perform (load dir name)).1 =
      decode name (t.encode order) := by
  rw [save, FileTree.perform] at h ⊢
  split at h
  · next files' hwrite =>
    show (files'.perform (load dir name)).1 = _
    rw [load, FileTree.perform, Disk.FileTree.contentAt_of_write hwrite]
  · cases h

/-- **A table that is stored and loaded again comes back exactly if it is storable**, wherever it
can be stored. -/
theorem load_save_iff {files : FileTree} {dir : String} (ht : t.WellFormed)
    (h : (files.perform (t.save order dir name)).1 = .ok ()) :
    (∃ t', ((files.perform (t.save order dir name)).2.perform (load dir name)).1 = .ok t' ∧
        t'.Alike t) ↔
      t.Storable := by
  rw [perform_load_of_save h]
  constructor
  · rintro ⟨t', hdecode, halike⟩
    exact storable_of_decode_encode ht hdecode halike
  · intro hstorable
    exact hstorable.decode_encode ht order name

/-- A carriage return before the last column does no harm. -/
theorem load_save_carriage_return :
    let t : Table := ⟨["a", "b"], [⟨["x\r", "y"]⟩, ⟨["", "y"]⟩]⟩
    ∃ t', ((FileTree.empty.perform (t.save .arrival "" "t")).2.perform (load "" "t")).1 = .ok t' ∧
      t'.Alike t := by
  intro t
  have ht : t.WellFormed := ⟨by decide, by decide, by decide, by decide⟩
  have hsave : (FileTree.empty.perform (t.save .arrival "" "t")).1 = .ok () := by decide +kernel
  have hstorable : t.Storable := ⟨by decide, by decide, by decide, by decide⟩
  exact (load_save_iff ht hsave).2 hstorable

end Table

end Tabular
