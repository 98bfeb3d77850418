import Mathlib.Data.List.Dedup
import Mathlib.Data.List.Sort
import Tabular.Proofs.Table.Format
import Tabular.Proofs.Table.Texts

/-!
# The normal form of a table's file

A table that was loaded and is stored writes the lines that were read, and how they were ended is
forgotten: the first line is the first again, the others come in any order, each once although it
was repeated, and a line feed ends each of them (`Text.Tidies`). Splitting lines at commas and
joining the fields again loses nothing, and rows are the same exactly if their lines are.

Apart from the order of lines this is a normal form (`Table.stores_tidied`): what was written is
loaded again, and stored again it is the same lines. For this the content must hold no carriage
return. The lines of a content with carriage returns may end in one, which the next reading takes
for a part of the line's end.

Contents are compared without their tables. `Text.Tidies` relates what a file held to what is
written over it, and tables are used once only, to show that loading and storing does this
(`Table.tidies_encode`). What follows is about contents: a tidy one has the same lines in any order
(`Text.Tidies.reorders`), and lines in one order are the same if there are the same lines
(`Text.mergeSort_eq_of_perm`). Sorting serves this comparison and nothing else; no table sorts its
rows.

An empty first line is a line with one title, the empty one. So a content of line feeds alone is a
file of a table too, and is tidied like any other.
-/

namespace Tabular

open Disk (FileTree)
open Text (Bytes splitFields utf8)

namespace Text

/-! ### Lines that are ended by line feeds -/

/-- Lines one after the other, each ended by a line feed. -/
def ended (lines : List Bytes) : Bytes :=
  lines.flatMap (· ++ [lf])

theorem ended_cons (line : Bytes) (lines : List Bytes) :
    ended (line :: lines) = line ++ lf :: ended lines := by
  rw [ended, List.flatMap_cons, List.append_assoc]
  rfl

theorem ended_map_utf8 (lines : List String) : ended (lines.map utf8) = ofLines lines :=
  List.flatMap_map ..

/-- Lines are found again if they hold no line feed and do not end in a carriage return. -/
theorem lined_ended {lines : List Bytes}
    (h : ∀ line ∈ lines, lf ∉ line ∧ line.getLast? ≠ some cr) : Lined (ended lines) lines := by
  induction lines with
  | nil => exact .nil
  | cons line lines ih =>
    obtain ⟨⟨hlf, hcr⟩, hlines⟩ := List.forall_mem_cons.1 h
    rw [ended_cons]
    exact .ended hlf hcr (ih hlines)

/-- No line holds a line feed, and what a line holds the content holds. -/
theorem Lined.of_mem {content line : Bytes} {lines : List Bytes} (h : Lined content lines)
    (hline : line ∈ lines) : lf ∉ line ∧ line ⊆ content := by
  rw [lined_iff.1 h] at hline
  exact ⟨lf_not_mem_of_mem_lines hline, fun _ ↦ mem_of_mem_lines hline⟩

/-! ### Contents up to the order of lines -/

/-- What stands before, between and after line feeds, but nothing after the last of them. -/
def pieces (content : Bytes) : List Bytes :=
  if content.getLast? = some lf then (content.splitOn lf).dropLast else content.splitOn lf

theorem pieces_of_not_mem {piece : Bytes} (h : lf ∉ piece) : pieces piece = [piece] := by
  rw [pieces, if_neg fun hlast ↦ h (List.mem_of_getLast? hlast), List.splitOn_eq_singleton h]

/-- A line feed ends a piece, and begins another only if something follows. -/
theorem pieces_append_lf {piece : Bytes} (h : lf ∉ piece) (rest : Bytes) :
    pieces (piece ++ lf :: rest) = piece :: if rest = [] then [] else pieces rest := by
  by_cases hrest : rest = []
  · subst hrest
    rw [if_pos rfl, pieces, if_pos List.getLast?_concat,
      List.splitOn_append_cons_self_of_not_mem h]
    rfl
  · have hlast : (piece ++ lf :: rest).getLast? = rest.getLast? := by
      rw [List.getLast?_append_cons, List.getLast?_cons_of_ne_nil hrest]
    rw [if_neg hrest, pieces, pieces, hlast, List.splitOn_append_cons_self_of_not_mem h]
    split
    · exact List.dropLast_cons_of_ne_nil (List.splitOn_ne_nil lf rest)
    · rfl

/-- However empty the lines are, something is left of them if there are any. -/
theorem ended_eq_nil_iff {lines : List Bytes} : ended lines = [] ↔ lines = [] := by
  cases lines with
  | nil => exact ⟨fun _ ↦ rfl, fun _ ↦ rfl⟩
  | cons line lines => simp [ended_cons]

/-- The pieces of lines that are ended by line feeds are the lines. -/
theorem pieces_ended {line : Bytes} {lines : List Bytes} (h : ∀ l ∈ line :: lines, lf ∉ l) :
    pieces (ended (line :: lines)) = line :: lines := by
  induction lines generalizing line with
  | nil =>
    rw [ended_cons, pieces_append_lf (h line (by simp))]
    rfl
  | cons next lines ih =>
    obtain ⟨hline, hlines⟩ := List.forall_mem_cons.1 h
    rw [ended_cons, pieces_append_lf hline, if_neg (by simp [ended_eq_nil_iff]), ih hlines]

/-- Without carriage returns, the lines of a content are its pieces. -/
theorem Lined.pieces_eq {content : Bytes} {lines : List Bytes} (h : Lined content lines)
    (hne : content ≠ []) (hcr : cr ∉ content) : pieces content = lines := by
  induction h with
  | nil => exact absurd rfl hne
  | last hlf => exact pieces_of_not_mem hlf
  | @ended line rest lines hlf _ hrest ih =>
    rw [pieces_append_lf hlf]
    by_cases hnil : rest = []
    · subst hnil
      rw [lined_iff.1 hrest]
      rfl
    · rw [if_neg hnil, ih hnil fun hmem ↦ hcr (by simp [hmem])]
  | endedCr => exact absurd (by simp) hcr

/-- The content with its first line in place and the others in order, by bytes. -/
def arranged (content : Bytes) : Bytes :=
  match pieces content with
  | [] => []
  | first :: others =>
    [lf].intercalate (first :: others.mergeSort) ++ if content.getLast? = some lf then [lf] else []

/-- The content with repetitions of other lines than the first removed, and a line feed at the
end. -/
def tidied (content : Bytes) : Bytes :=
  match pieces content with
  | [] => []
  | first :: others => ended (first :: others.dedup)

theorem getLast?_ended (line : Bytes) (lines : List Bytes) :
    (ended (line :: lines)).getLast? = some lf := by
  induction lines generalizing line with
  | nil =>
    rw [ended_cons]
    exact List.getLast?_concat
  | cons next lines ih =>
    have hne : ended (next :: lines) ≠ [] := by simp [ended_eq_nil_iff]
    rw [ended_cons, List.getLast?_append_cons, List.getLast?_cons_of_ne_nil hne, ih]

/-- Lists of lines in one order are in the same order if they hold the same lines. -/
theorem mergeSort_eq_of_perm {lines lines' : List Bytes} (h : lines'.Perm lines) :
    lines'.mergeSort = lines.mergeSort := by
  have hsorted (lines : List Bytes) : lines.mergeSort.Pairwise (· ≤ ·) :=
    List.pairwise_mergeSort' (· ≤ ·) lines
  have hperm : lines'.mergeSort.Perm lines.mergeSort :=
    (List.mergeSort_perm ..).trans (h.trans (List.mergeSort_perm ..).symm)
  exact hperm.eq_of_pairwise' (hsorted lines') (hsorted lines)

/-- **The order of the other lines makes no difference.** -/
theorem arranged_ended {first : Bytes} {others others' : List Bytes}
    (h : ∀ line ∈ first :: others, lf ∉ line) (hperm : others'.Perm others) :
    arranged (ended (first :: others')) = arranged (ended (first :: others)) := by
  have h' : ∀ line ∈ first :: others', lf ∉ line :=
    fun line hline ↦ h line ((hperm.cons first).mem_iff.1 hline)
  rw [arranged, arranged, pieces_ended h, pieces_ended h', getLast?_ended, getLast?_ended]
  simp only [mergeSort_eq_of_perm hperm]

/-! ### Tidy contents -/

/-- The second content has the lines of the first, each ended by a line feed: the first line first,
and each of the others once, in any order. -/
def Tidies (content written : Bytes) : Prop :=
  ∃ header rows rows', Lined content (header :: rows) ∧ rows'.Nodup ∧
    (∀ row, row ∈ rows' ↔ row ∈ rows) ∧ written = ended (header :: rows')

/-- The second content has the lines of the first, as often, each ended by a line feed: the first
line first, and the others in any order. -/
def Reorders (content written : Bytes) : Prop :=
  ∃ header rows rows', Lined content (header :: rows) ∧ rows'.Perm rows ∧
    written = ended (header :: rows')

variable {content written again : Bytes}

/-- **Without carriage returns a content that is tidied loses its repetitions**, gets its last line
feed, and keeps everything else but the order of lines. -/
theorem Tidies.arranged_eq (h : Tidies content written) (hcr : cr ∉ content) :
    arranged written = arranged (tidied content) := by
  obtain ⟨header, rows, rows', hlined, hnodup, hmem, rfl⟩ := h
  have hne : content ≠ [] := by
    rintro rfl
    cases lined_iff.1 hlined
  have hlf : ∀ line ∈ header :: rows.dedup, lf ∉ line := by
    intro line hline
    exact (hlined.of_mem (List.cons_subset_cons header (List.dedup_subset rows) hline)).1
  have hperm : rows'.Perm rows.dedup :=
    (List.perm_ext_iff_of_nodup hnodup (List.nodup_dedup rows)).2 fun row ↦ by
      rw [hmem, List.mem_dedup]
  rw [tidied, hlined.pieces_eq hne hcr]
  exact arranged_ended hlf hperm

/-- **What is tidy already is reordered.** -/
theorem Tidies.reorders (h : Tidies content written) (hcr : cr ∉ content)
    (hagain : Tidies written again) : Reorders written again := by
  obtain ⟨header, rows, rows', hlined, hnodup, hmem, rfl⟩ := h
  obtain ⟨header₂, rows₂, rows₂', hlined₂, hnodup₂, hmem₂, rfl⟩ := hagain
  have hplain : ∀ line ∈ header :: rows', lf ∉ line ∧ line.getLast? ≠ some cr := by
    intro line hline
    have hline' : line ∈ header :: rows := by
      rcases List.mem_cons.1 hline with rfl | hrow
      · exact List.mem_cons_self
      · exact List.mem_cons_of_mem header ((hmem line).1 hrow)
    obtain ⟨hlf, hsubset⟩ := hlined.of_mem hline'
    exact ⟨hlf, fun hlast ↦ hcr (hsubset (List.mem_of_getLast? hlast))⟩
  -- so these lines are the lines that are read from what was written
  obtain ⟨rfl, rfl⟩ : header = header₂ ∧ rows' = rows₂ :=
    List.cons.inj ((lined_iff.1 (lined_ended hplain)).trans (lined_iff.1 hlined₂).symm)
  exact ⟨header, rows', rows₂', hlined₂, (List.perm_ext_iff_of_nodup hnodup₂ hnodup).2 hmem₂, rfl⟩

end Text

namespace Table

variable {content : Bytes} {name : String} {t : Table}

/-- **A table that was read writes the lines that it was read from**, tidied. -/
theorem tidies_encode (h : decode name content = .ok t) (order : RowOrder) :
    Text.Tidies content (t.encode order) := by
  obtain ⟨header, rows, hlines, -⟩ := exists_decode_iff.1 ⟨t, h⟩
  obtain ⟨htitles, hnodup, hrows⟩ := rows_of_decode hlines h
  -- a row is known from its line, since it was split from one
  have hofLine : ∀ r ∈ t.rows, Row.ofLine r.joined = r := by
    intro r hr
    obtain ⟨row, -, hvalues⟩ := (hrows r).1 hr
    rw [show r = Row.ofLine row from congrArg Row.mk hvalues, Row.joined_ofLine]
  have hjoined : ((order.list t.rows).map Row.joined).Nodup := by
    refine ((order.perm t.rows).nodup_iff.2 hnodup).map_on fun r hr s hs heq ↦ ?_
    rw [← hofLine r ((order.perm _).mem_iff.1 hr), heq, hofLine s ((order.perm _).mem_iff.1 hs)]
  have hmem (row : String) : row ∈ (order.list t.rows).map Row.joined ↔ row ∈ rows := by
    rw [List.mem_map]
    constructor
    · rintro ⟨r, hr, rfl⟩
      obtain ⟨row, hrow, hvalues⟩ := (hrows r).1 ((order.perm _).mem_iff.1 hr)
      rwa [Row.joined, hvalues, Text.joinFields_splitFields]
    · intro hrow
      have hr : Row.ofLine row ∈ t.rows := (hrows _).2 ⟨row, hrow, rfl⟩
      exact ⟨_, (order.perm _).mem_iff.2 hr, Row.joined_ofLine row⟩
  refine ⟨utf8 header, rows.map utf8, ((order.list t.rows).map Row.joined).map utf8,
    Text.lined_iff.2 hlines.symm, hjoined.map Text.utf8_injective, fun row ↦ ?_, ?_⟩
  · simp only [List.mem_map (f := utf8), hmem]
  · have hheader : Text.joinFields t.titles = header := by
      rw [htitles, Text.joinFields_splitFields]
    rw [← List.map_cons, Text.ended_map_utf8, ← hheader]
    rfl

/-- Storing the table with a name succeeds, and leaves the content in its file. -/
def Stores (t : Table) (order : RowOrder) (dir name : String) (files files' : FileTree)
    (written : Bytes) : Prop :=
  files.perform (t.save order dir name) = (.ok (), files') ∧
    files'.contentAt (Disk.tablePath dir name) = .ok written

/-- What is left in the file is the table's lines. -/
theorem Stores.eq_encode {order : RowOrder} {dir : String} {files files' : FileTree}
    {written : Bytes} (h : t.Stores order dir name files files' written) :
    written = t.encode order := by
  obtain ⟨hsave, hcontent⟩ := h
  rw [save, FileTree.perform] at hsave
  split at hsave
  · next files₁ hwrite =>
    obtain ⟨-, rfl⟩ := Prod.mk.inj hsave
    rw [Disk.FileTree.contentAt_of_write hwrite] at hcontent
    exact (Except.ok.inj hcontent).symm
  · cases hsave

/-- A table can be stored where there is a file. -/
theorem exists_stores {files : FileTree} {dir : String}
    (hfile : files.contentAt (Disk.tablePath dir name) = .ok content) (t : Table)
    (order : RowOrder) : ∃ files', t.Stores order dir name files files' (t.encode order) := by
  obtain ⟨place, hlocate, hplace⟩ := bind_eq_ok_iff.1 hfile
  have hnot : files.get? place ≠ some .directory := by
    intro hdir
    rw [hdir] at hplace
    cases hplace
  have hwrite : files.write (Disk.tablePath dir name) (t.encode order) =
      .ok (files.put place (.file (t.encode order))) :=
    Disk.FileTree.write_eq_ok_iff.2 ⟨place, hlocate, hnot, rfl⟩
  refine ⟨_, ?_, Disk.FileTree.contentAt_of_write hwrite⟩
  rw [save, FileTree.perform, hwrite]

/-- **Loading and storing brings a file to a normal form.** Wherever a table that was loaded is
stored, and this is possible where it was loaded from, the file is tidied: its first line, and each
of the others once, all ended by line feeds. Without carriage returns the file keeps all else but
the order of its lines, and it is loaded again; stored once more, the lines are in another order at
most. -/
theorem stores_tidied {files : FileTree} {dir : String}
    (hfile : files.contentAt (Disk.tablePath dir name) = .ok content)
    (hload : (files.perform (load dir name)).1 = .ok t) :
    (∀ order, ∃ files' written, t.Stores order dir name files files' written) ∧
    ∀ {order : RowOrder} {dir' name' : String} {files₁ files₂ : FileTree} {written : Bytes},
      t.Stores order dir' name' files₁ files₂ written →
        Text.Tidies content written ∧
        (Text.cr ∉ content → Text.arranged written = Text.arranged (Text.tidied content) ∧
          ∃ t', (files₂.perform (load dir' name')).1 = .ok t' ∧
            ∀ {order' : RowOrder} {dir'' name'' : String} {files₃ files₄ : FileTree}
              {again : Bytes}, t'.Stores order' dir'' name'' files₃ files₄ again →
                Text.Reorders written again) := by
  rw [perform_load hfile] at hload
  refine ⟨fun order ↦ ?_, fun {order dir' name' files₁ files₂ written} hstores ↦ ?_⟩
  · obtain ⟨files', hstores⟩ := exists_stores hfile t order
    exact ⟨files', _, hstores⟩
  · have htidies : Text.Tidies content written := by
      rw [hstores.eq_encode]
      exact tidies_encode hload order
    refine ⟨htidies, fun hcr ↦ ⟨htidies.arranged_eq hcr, ?_⟩⟩
    have hends := (cr_not_mem_of_decode hload hcr).endsPlainly
    obtain ⟨t', hdecode, -⟩ : ∃ t', decode name' (t.encode order) = .ok t' ∧ t'.SameAs t :=
      (decode_encode_iff_endsPlainly (wellFormed_of_decode hload) (inline_of_decode hload)).2 hends
    rw [← hstores.eq_encode] at hdecode
    refine ⟨t', (perform_load hstores.2).trans hdecode, fun hagain ↦ ?_⟩
    rw [hagain.eq_encode]
    exact htidies.reorders hcr (tidies_encode hdecode _)

/-- Of three rows the last repeats the first, and its line has no line feed. -/
theorem stores_tidied_repeated :
    let content := utf8 "a,b\nx,\n,\nx,"
    let written := utf8 "a,b\nx,\n,\n"
    let t : Table := ⟨["a", "b"], [⟨["x", ""]⟩, ⟨["", ""]⟩]⟩
    let files : FileTree := ⟨[(⟨.above 0, ["t.db"]⟩, .file content)]⟩
    let files' : FileTree := ⟨[(⟨.above 0, ["t.db"]⟩, .file written)]⟩
    files.contentAt (Disk.tablePath "" "t") = .ok content ∧
      (files.perform (load "" "t")).1 = .ok t ∧
      t.Stores .arrival "" "t" files files' written ∧ Text.Tidies content written ∧
      Text.arranged written = Text.arranged (Text.tidied content) ∧
      t.Stores .arrival "" "t" files' files' written ∧ Text.Reorders written written := by
  intro content written t files files'
  have hfile : files.contentAt (Disk.tablePath "" "t") = .ok content := by decide +kernel
  have hload : (files.perform (load "" "t")).1 = .ok t := by decide +kernel
  have hstores : t.Stores .arrival "" "t" files files' written :=
    ⟨by decide +kernel, by decide +kernel⟩
  have hcr : Text.cr ∉ content := by decide +kernel
  obtain ⟨-, htidied⟩ := stores_tidied hfile hload
  obtain ⟨htidies, hplain⟩ := htidied hstores
  obtain ⟨harranged, t', hload', hreorders⟩ := hplain hcr
  have hback : (files'.perform (load "" "t")).1 = .ok t := by decide +kernel
  obtain rfl : t = t' := Except.ok.inj (hback.symm.trans hload')
  have hagain : t.Stores .arrival "" "t" files' files' written :=
    ⟨by decide +kernel, by decide +kernel⟩
  exact ⟨hfile, hload, hstores, htidies, harranged, hagain, hreorders hagain⟩

end Table

end Tabular
