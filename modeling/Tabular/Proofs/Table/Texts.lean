import Tabular.Proofs.Database.Reached
import Tabular.Proofs.Query.Reading
import Tabular.Proofs.Table.RoundTrip

/-!
# What the texts of a table are

Titles and values are moved about and never changed: a table that is made of others, or of a file,
holds their titles and their values. So if each text has a property, each text of what is made of
them has it (`Table.HoldsOnly`). The property that matters is to hold no comma: among rows of one
width that hold no comma, those with one joined form are equal (`Row.Same.eq_of_width`).

A property of texts is carried through everything in one way. What is made of tables takes titles
from titles and values from values; what is read from a file takes both from the fields of its
lines. So `HoldsOnly` needs no knowledge of the property, and the properties that are used, to hold
no comma and no line feed or to hold no carriage return, need no knowledge of the operations.

Two relations between tables are compared here. `Alike` tells rows by their joined forms, `SameAs`
by their values. They come to the same for rows that hold no comma, and tables whose texts all came
from statements or from files are of that kind.
-/

namespace Tabular

variable {P : String → Prop}

/-! ### Rows without commas -/

/-- No value of the row holds a comma. -/
def Row.Plain (r : Row) : Prop :=
  ∀ v ∈ r.values, ',' ∉ v.toList

/-- **Rows of one width with one joined form are equal**, if commas stand only between their
values. -/
theorem Row.Same.eq_of_width {r s : Row} (h : r.Same s) (hwidth : r.width = s.width) (hr : r.Plain)
    (hs : s.Plain) : r = s := by
  obtain ⟨rs⟩ := r
  obtain ⟨ss⟩ := s
  congr 1
  by_cases hne : rs = []
  · subst hne
    exact (List.length_eq_zero_iff.1 hwidth.symm).symm
  · have hne' : ss ≠ [] := by
      rintro rfl
      exact hne (List.length_eq_zero_iff.1 hwidth)
    have heq : Text.joinFields rs = Text.joinFields ss := h
    rw [← Text.splitFields_joinFields hne hr, heq, Text.splitFields_joinFields hne' hs]

/-- Fields are what stands between commas, so a row that was read from a line holds none. -/
theorem Row.plain_ofLine (line : String) : (Row.ofLine line).Plain :=
  fun _ hv ↦ Text.not_mem_of_mem_splitFields hv

/-! ### Reading lines -/

namespace Text

/-- What stands in a line stands in the file. -/
theorem mem_of_mem_lines {bytes line : Bytes} (h : line ∈ lines bytes) {b : UInt8} (hb : b ∈ line) :
    b ∈ bytes := by
  induction bytes using piece_induction lf with
  | last piece hpiece =>
    by_cases hne : piece = []
    · simp [hne] at h
    · rw [lines_eq_singleton hpiece hne, List.mem_singleton] at h
      rwa [← h]
  | cons piece rest hpiece ih =>
    rw [lines_append_lf hpiece] at h
    rcases List.mem_cons.1 h with rfl | h
    · have hmem : b ∈ piece := by
        unfold chomp at hb
        split at hb
        · exact List.dropLast_subset _ hb
        · exact hb
      exact List.mem_append_left _ hmem
    · exact List.mem_append_right _ (List.mem_cons_of_mem lf (ih h))

/-- A carriage return that is read stands in the file. -/
theorem cr_mem_of_mem_textLines {bytes : Bytes} {line : String} (h : some line ∈ textLines bytes)
    (hcr : '\r' ∈ line.toList) : cr ∈ bytes := by
  obtain ⟨bytes', hmem, heq⟩ := List.mem_map.1 h
  rw [ofUtf8?_eq_some_iff] at heq
  subst heq
  exact mem_of_mem_lines hmem ((mem_utf8_iff (d := '\r') (by decide)).2 hcr)

end Text

/-! ### Tables -/

namespace Table

/-- Every title and every value of the table has the property. -/
structure HoldsOnly (P : String → Prop) (t : Table) : Prop where
  title : ∀ title ∈ t.titles, P title
  value : ∀ r ∈ t.rows, ∀ v ∈ r.values, P v

variable {t t' : Table}

theorem holdsOnly_of_new {titles : List String} (h : new titles = .ok t)
    (htitles : ∀ title ∈ titles, P title) : t.HoldsOnly P := by
  obtain ⟨-, -, rfl⟩ := new_eq_ok_iff.1 h
  exact ⟨htitles, by simp⟩

/-- Added rows bring in their values and nothing else. -/
theorem HoldsOnly.addAll {rows : List Row} (ht : t.HoldsOnly P)
    (hrows : ∀ r ∈ rows, ∀ v ∈ r.values, P v) (h : t.addAll rows = .ok t') : t'.HoldsOnly P := by
  obtain ⟨htitles, hfrom, -, -⟩ := addAll_eq_ok h
  refine ⟨htitles ▸ ht.title, fun r hr ↦ ?_⟩
  rcases hfrom r hr with hr | hr
  · exact ht.value r hr
  · exact hrows r hr

theorem HoldsOnly.add {row : Row} {new : Bool} (ht : t.HoldsOnly P) (hrow : ∀ v ∈ row.values, P v)
    (h : t.add row = .ok (new, t')) : t'.HoldsOnly P := by
  have hall : t.addAll [row] = .ok t' := by simp only [Table.addAll, h]
  exact ht.addAll (by simpa using hrow) hall

/-- **A table read from a file holds what fields of its lines are.** -/
theorem holdsOnly_of_decode {name : String} {content : Text.Bytes}
    (h : decode name content = .ok t)
    (hfields : ∀ line, some line ∈ Text.textLines content → ∀ f ∈ Text.splitFields line, P f) :
    t.HoldsOnly P := by
  obtain ⟨header, lines, hlines, -, hall⟩ := decode_eq_ok_iff.1 h
  rw [hlines] at hfields
  have hheader : (⟨Text.splitFields header, []⟩ : Table).HoldsOnly P :=
    ⟨hfields header (by simp), by simp⟩
  refine hheader.addAll (fun r hr ↦ ?_) hall
  obtain ⟨line, hline, rfl⟩ := List.mem_map.1 hr
  exact hfields line (by simp [hline])

end Table

/-! ### Queries -/

/-- A title that is found is the title of a table. -/
theorem Column.exists_mem_of_resolve {tables : List Table} {title : String} {c : Column}
    (h : resolve tables title = .ok c) : ∃ t ∈ tables, title ∈ t.titles := by
  obtain ⟨hbinding, -⟩ := resolve_eq_ok_iff.1 h
  match tables, hbinding with
  | [t], hbinding =>
    obtain ⟨k, hslot, -⟩ := Option.map_eq_some_iff.1 hbinding
    exact ⟨t, by simp, Table.mem_titles_of_slot? hslot⟩
  | left :: right :: rest, hbinding =>
    rw [binding?] at hbinding
    split at hbinding
    · next k hslot => exact ⟨left, by simp, Table.mem_titles_of_slot? hslot⟩
    · obtain ⟨k, hslot, -⟩ := Option.map_eq_some_iff.1 hbinding
      exact ⟨right, by simp, Table.mem_titles_of_slot? hslot⟩

/-- The value of a column stands in one of the rows. -/
theorem Column.exists_mem_of_value {c : Column} {sources : List Row} {v : String}
    (h : c.value sources = some v) : ∃ r ∈ sources, v ∈ r.values := by
  unfold value at h
  split at h
  · next r hr => exact ⟨r, List.mem_of_getElem? hr, List.mem_of_getElem? h⟩
  · cases h

/-- What columns make of rows holds values of the rows. -/
theorem Row.exists_mem_of_project {columns : List Column} {sources : List Row} {row : Row}
    (h : project columns sources = some row) {v : String} (hv : v ∈ row.values) :
    ∃ r ∈ sources, v ∈ r.values := by
  obtain ⟨c, -, hc⟩ := exists_mem_of_forall₂ (project_eq_some_iff.1 h).flip hv
  exact Column.exists_mem_of_value hc

/-- **What is gathered holds values of the candidates.** -/
theorem exists_mem_of_gather {columns : List Column} {conditions : List Condition}
    {candidates : List (List Row)} {rows : List Row}
    (h : gather columns conditions candidates = some rows) {row : Row} (hrow : row ∈ rows)
    {v : String} (hv : v ∈ row.values) : ∃ sources ∈ candidates, ∃ r ∈ sources, v ∈ r.values := by
  obtain ⟨sources, hsources, -, hproject⟩ := (mem_of_gather h row).1 hrow
  exact ⟨sources, hsources, Row.exists_mem_of_project hproject hv⟩

namespace Table

/-- What is collected holds values of the candidates. -/
theorem exists_mem_of_collect {titles : List String} {tables : List Table}
    {conditions : List Condition} {candidates : List (List Row)} {t : Table}
    (h : collect titles tables conditions candidates = .ok t) {row : Row} (hrow : row ∈ t.rows)
    {v : String} (hv : v ∈ row.values) : ∃ sources ∈ candidates, ∃ r ∈ sources, v ∈ r.values := by
  obtain ⟨-, -, columns, rows, -, hrows, hadd⟩ := collect_eq_ok_iff.1 h
  obtain ⟨-, hfrom, -, -⟩ := addAll_eq_ok hadd
  rcases hfrom row hrow with hrow | hrow
  · cases hrow
  · exact exists_mem_of_gather hrows hrow hv

/-- **A table that is collected holds titles of its tables and values of its candidates.** -/
theorem holdsOnly_of_collect {titles : List String} {tables : List Table}
    {conditions : List Condition} {candidates : List (List Row)} {t : Table}
    (h : collect titles tables conditions candidates = .ok t)
    (htables : ∀ t' ∈ tables, t'.HoldsOnly P)
    (hcandidates : ∀ sources ∈ candidates, ∀ r ∈ sources, ∀ v ∈ r.values, P v) : t.HoldsOnly P := by
  obtain ⟨-, -, columns, rows, hcolumns, -, hadd⟩ := collect_eq_ok_iff.1 h
  obtain ⟨htitles, -⟩ := addAll_eq_ok hadd
  refine ⟨fun title htitle ↦ ?_, fun row hrow v hv ↦ ?_⟩
  · rw [htitles] at htitle
    obtain ⟨c, -, hc⟩ := exists_mem_of_forall₂ hcolumns htitle
    obtain ⟨t', ht', hmem⟩ := Column.exists_mem_of_resolve hc
    exact (htables t' ht').title title hmem
  · obtain ⟨sources, hsources, r, hr, hmem⟩ := exists_mem_of_collect h hrow hv
    exact hcandidates sources hsources r hr v hmem

end Table

/-! ### Written and read back -/

/-- The text holds no comma and no line feed. -/
def Text.Inline (s : String) : Prop :=
  ',' ∉ s.toList ∧ '\n' ∉ s.toList

namespace Table

/-- Neither the last title nor the last value of a row ends in a carriage return. -/
structure EndsPlainly (t : Table) : Prop where
  title : ∀ title ∈ t.titles.getLast?, ¬ Text.EndsInCr title
  value : ∀ r ∈ t.rows, ∀ v ∈ r.values.getLast?, ¬ Text.EndsInCr v

/-- The tables have the same titles in the same order, and the same rows. -/
structure SameAs (t t' : Table) : Prop where
  titles : t.titles = t'.titles
  mem_rows_iff : ∀ r, r ∈ t.rows ↔ r ∈ t'.rows

variable {t t' : Table} {order : RowOrder} {name : String}

/-- No field of any file holds a comma or a line feed. -/
theorem inline_of_decode {content : Text.Bytes} (h : decode name content = .ok t) :
    t.HoldsOnly Text.Inline := by
  refine holdsOnly_of_decode h fun line hline f hf ↦ ?_
  refine ⟨Text.not_mem_of_mem_splitFields hf, fun hmem ↦ ?_⟩
  exact Text.not_mem_of_mem_textLines hline (Text.mem_of_mem_splitFields (by decide) hf hmem)

/-- No carriage return is read where the file holds none. -/
theorem cr_not_mem_of_decode {content : Text.Bytes} (h : decode name content = .ok t)
    (hcr : Text.cr ∉ content) : t.HoldsOnly fun s ↦ '\r' ∉ s.toList := by
  refine holdsOnly_of_decode h fun line hline f hf hmem ↦ hcr ?_
  exact Text.cr_mem_of_mem_textLines hline (Text.mem_of_mem_splitFields (by decide) hf hmem)

/-- A table without carriage returns ends plainly. -/
theorem HoldsOnly.endsPlainly (ht : t.HoldsOnly fun s ↦ '\r' ∉ s.toList) : t.EndsPlainly where
  title title htitle hends :=
    ht.title title (List.mem_of_getLast? htitle) (List.mem_of_getLast? hends)
  value r hr v hv hends :=
    ht.value r hr v (List.mem_of_getLast? hv) (List.mem_of_getLast? hends)

/-- Tables with the same joined rows have the same rows, if commas stand only between values. -/
theorem Alike.sameAs (h : t.Alike t') (ht : t.WellFormed) (ht' : t'.WellFormed)
    (hplain : ∀ r ∈ t.rows, r.Plain) (hplain' : ∀ r ∈ t'.rows, r.Plain) : t.SameAs t' where
  titles := h.titles
  mem_rows_iff r := by
    have hwidth : t.width = t'.width := congrArg List.length h.titles
    constructor
    · intro hr
      obtain ⟨s, hs, hsame⟩ := (h.rows r.joined).1 ⟨r, hr, rfl⟩
      have heq : s = r := Row.Same.eq_of_width hsame
        ((ht'.width_eq s hs).trans (hwidth.symm.trans (ht.width_eq r hr).symm)) (hplain' s hs)
        (hplain r hr)
      exact heq ▸ hs
    · intro hr
      obtain ⟨s, hs, hsame⟩ := (h.rows r.joined).2 ⟨r, hr, rfl⟩
      have heq : s = r := Row.Same.eq_of_width hsame
        ((ht.width_eq s hs).trans (hwidth.trans (ht'.width_eq r hr).symm)) (hplain s hs)
        (hplain' r hr)
      exact heq ▸ hs

theorem SameAs.alike (h : t.SameAs t') : t.Alike t' :=
  ⟨h.titles, fun j ↦ by simp only [h.mem_rows_iff]⟩

/-- **A table with neither commas nor line feeds in its texts is read back exactly if no line of its
file ends in a carriage return.** -/
theorem decode_encode_iff_endsPlainly (ht : t.WellFormed) (hinline : t.HoldsOnly Text.Inline) :
    (∃ t', decode name (t.encode order) = .ok t' ∧ t'.SameAs t) ↔ t.EndsPlainly := by
  constructor
  · rintro ⟨t', hdecode, hsame⟩
    have hstorable := storable_of_decode_encode ht hdecode hsame.alike
    exact ⟨hstorable.last_title, hstorable.last_value⟩
  · intro hends
    have hstorable : t.Storable := ⟨hinline.title, hinline.value, hends.title, hends.value⟩
    obtain ⟨t', hdecode, halike⟩ := hstorable.decode_encode ht order name
    refine ⟨t', hdecode, halike.sameAs (wellFormed_of_decode hdecode) ht ?_ ?_⟩
    · exact fun r hr v hv ↦ ((inline_of_decode hdecode).value r hr v hv).1
    · exact fun r hr v hv ↦ (hinline.value r hr v hv).1

end Table

end Tabular
