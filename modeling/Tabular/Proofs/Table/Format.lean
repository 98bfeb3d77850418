import Tabular.Proofs.Table.RoundTrip

/-!
# What a table's file may hold

A file is read as a table exactly if it has a line, all its lines are text, the fields of the first
are distinct, and the others have as many fields as the first; the table then has the fields of the
first line for its titles and the others for its rows (`Table.load_file`). `Text.Lined` says what
the lines of a file are without saying how they are found.

Whatever else a file holds, the error is that of its first faulty line. Faults are told line by line
by `Table.LineFault`, which knows nothing of the order in which lines are read. A line has one fault
at most (`Table.LineFault.unique`), and up to the line at which reading stops there is none
(`Table.LineFault.length_lt`), so the fault that is reported is the first one.

Neither `Lined` nor `LineFault` looks at the reader. A content is cut into lines by what stands
before each line feed, which is a statement about the content alone, and that it determines the
lines is `Text.lined_iff`. A line is judged by its bytes and, for its width, by those of the first
line; so a later line may have a fault of its own although reading never comes to it, and that such
faults do no harm is the point of taking the first.

Of the titles that repeat, the error names the one that is found from the front. It is told by a
front without repetitions and a title that stands in it already (`firstRepeated_eq_some_iff`), which
determines it.

## Files that are not there

`Table.load_file` begins with the content of a file. Whether there is a file under the path, and
whether the disk lets it be read, is decided before; the errors for that name the table, and no line
is to blame for them.
-/

namespace Tabular

open Disk (FileTree)
open Text (Bytes splitFields utf8)

namespace Text

/-! ### Lines -/

/-- The lines of a content. A line ends at a line feed, and a carriage return right before that
belongs to the end; what follows the last line feed is a line as it stands, if there is anything. -/
inductive Lined : Bytes → List Bytes → Prop
  | nil : Lined [] []
  | last {line : Bytes} (hlf : lf ∉ line) (hne : line ≠ []) : Lined line [line]
  | ended {line rest : Bytes} {lines : List Bytes} (hlf : lf ∉ line)
      (hcr : line.getLast? ≠ some cr) (h : Lined rest lines) :
      Lined (line ++ lf :: rest) (line :: lines)
  | endedCr {line rest : Bytes} {lines : List Bytes} (hlf : lf ∉ line) (h : Lined rest lines) :
      Lined (line ++ cr :: lf :: rest) (line :: lines)

/-- A line that ends at a line feed is what stands before it, chomped. -/
theorem Lined.append_lf {piece rest : Bytes} {ls : List Bytes} (hpiece : lf ∉ piece)
    (h : Lined rest ls) : Lined (piece ++ lf :: rest) (chomp piece :: ls) := by
  rcases eq_chomp_append_cr_or piece with hcr | ⟨hcr, hself⟩
  · have hline : lf ∉ chomp piece := fun hmem ↦ hpiece (hcr ▸ List.mem_append_left _ hmem)
    rw [congrArg (· ++ lf :: rest) hcr, List.append_assoc]
    exact .endedCr hline h
  · rw [hself]
    exact .ended hpiece hcr h

/-- **Every content has lines in one way.** -/
theorem lined_iff {content : Bytes} {ls : List Bytes} : Lined content ls ↔ ls = lines content := by
  constructor
  · intro h
    induction h with
    | nil => rfl
    | last hlf hne => exact (lines_eq_singleton hlf hne).symm
    | @ended line rest ls hlf hcr _ ih => rw [lines_append_lf hlf, ih, chomp_eq_self hcr]
    | @endedCr line rest ls hlf _ ih =>
      have hlf' : lf ∉ line ++ [cr] := by simpa using ⟨hlf, by decide⟩
      rw [List.append_cons line cr (lf :: rest), lines_append_lf hlf', ih, chomp_append_cr]
  · rintro rfl
    induction content using piece_induction lf with
    | last piece hpiece =>
      by_cases hne : piece = []
      · subst hne
        exact .nil
      · rw [lines_eq_singleton hpiece hne]
        exact .last hpiece hne
    | cons piece rest hpiece ih =>
      rw [lines_append_lf hpiece]
      exact ih.append_lf hpiece

/-- Only an empty file has no line. -/
theorem lines_eq_nil_iff {content : Bytes} : lines content = [] ↔ content = [] := by
  constructor
  · intro h
    obtain _ | _ := lined_iff.2 h.symm
    rfl
  · rintro rfl
    rfl

/-- A text is told by its encoding, since decoding gives it back. -/
theorem utf8_injective : Function.Injective utf8 := by
  intro s t h
  have hof := congrArg ofUtf8? h
  simpa using hof

/-- Lines that are all text are the encodings of texts. -/
theorem map_ofUtf8?_eq_iff {ls : List Bytes} {texts : List String} :
    ls.map ofUtf8? = texts.map some ↔ ls = texts.map utf8 := by
  induction ls generalizing texts with
  | nil => rw [List.map_nil, List.nil_eq, List.nil_eq, List.map_eq_nil_iff, List.map_eq_nil_iff]
  | cons line ls ih =>
    cases texts with
    | nil => simp
    | cons text texts =>
      rw [List.map_cons, List.map_cons, List.map_cons, List.cons.injEq, List.cons.injEq, ih,
        ofUtf8?_eq_some_iff]

end Text

/-! ### The first text that is repeated -/

/-- **The first repeated text** of a list is the one that a front without repetitions holds already,
or that was seen before it. -/
theorem firstRepeated_eq_some_iff {seen ts : List String} {title : String} :
    firstRepeated seen ts = some title ↔ ∃ before after, ts = before ++ title :: after ∧
      (title ∈ before ∨ title ∈ seen) ∧ before.Nodup ∧ ∀ t ∈ before, t ∉ seen := by
  induction ts generalizing seen with
  | nil => simp [firstRepeated]
  | cons t ts ih =>
    rw [firstRepeated]
    split
    · next ht =>
      constructor
      · intro h
        obtain rfl := Option.some.inj h
        exact ⟨[], ts, rfl, .inr ht, .nil, by simp⟩
      · rintro ⟨before, after, hts, -, -, hseen⟩
        rcases List.cons_eq_append_iff.1 hts with ⟨rfl, heq⟩ | ⟨before, rfl, -⟩
        · rw [(List.cons.inj heq).1]
        · exact absurd ht (hseen t (by simp))
    · next ht =>
      rw [ih]
      constructor
      · rintro ⟨before, after, rfl, hmem, hnodup, hseen⟩
        refine ⟨t :: before, after, rfl, ?_, ?_, ?_⟩
        · rcases hmem with hmem | hmem
          · exact .inl (by simp [hmem])
          · rcases List.mem_cons.1 hmem with rfl | hmem
            · exact .inl (by simp)
            · exact .inr hmem
        · exact List.nodup_cons.2 ⟨fun hmem ↦ hseen t hmem (by simp), hnodup⟩
        · intro u hu huseen
          rcases List.mem_cons.1 hu with rfl | hu
          · exact ht huseen
          · exact hseen u hu (by simp [huseen])
      · rintro ⟨before, after, hts, hmem, hnodup, hseen⟩
        rcases List.cons_eq_append_iff.1 hts with ⟨rfl, heq⟩ | ⟨before, rfl, hts⟩
        · -- nothing stands before the title, so it was seen, and `t` is the title
          obtain ⟨rfl, -⟩ := List.cons.inj heq
          rcases hmem with hmem | hmem
          · cases hmem
          · exact absurd hmem ht
        · obtain ⟨ht', hnodup⟩ := List.nodup_cons.1 hnodup
          refine ⟨before, after, (List.cons.inj hts).2, ?_, hnodup, fun u hu huseen ↦ ?_⟩
          · rcases hmem with hmem | hmem
            · rcases List.mem_cons.1 hmem with rfl | hmem
              · exact .inr (by simp)
              · exact .inl hmem
            · exact .inr (by simp [hmem])
          · rcases List.mem_cons.1 huseen with rfl | huseen
            · exact ht' hu
            · exact hseen u (by simp [hu]) huseen

namespace Table

/-! ### Faults of lines -/

/-- The lines of a table's file: distinct titles, and rows with a field for each. -/
structure Formatted (header : String) (rows : List String) : Prop where
  nodup : (splitFields header).Nodup
  length_eq : ∀ row ∈ rows, (splitFields row).length = (splitFields header).length

/-- What is wrong with the line at a place, by itself or next to the first line, and the error that
it gives rise to. -/
inductive LineFault (name : String) (lines : List Bytes) : Nat → Error → Prop
  | notText {k : Nat} {line : Bytes} (hline : lines[k]? = some line)
      (hutf : ∀ text, line ≠ utf8 text) :
      LineFault name lines k (.storage (.reading name .notUtf8))
  | repeated {header title : String} {before after : List String}
      (hline : lines[0]? = some (utf8 header))
      (hfields : splitFields header = before ++ title :: after) (hnodup : before.Nodup)
      (hmem : title ∈ before) :
      LineFault name lines 0 (.duplicateColumn title)
  | width {k : Nat} {header row : String} (hheader : lines[0]? = some (utf8 header))
      (hline : lines[k]? = some (utf8 row))
      (hwidth : (splitFields row).length ≠ (splitFields header).length) :
      LineFault name lines k (.rowWidth (splitFields header).length (splitFields row).length)

/-- The error of the first line with a fault. -/
def FirstFault (name : String) (lines : List Bytes) (e : Error) : Prop :=
  ∃ k, LineFault name lines k e ∧ ∀ j < k, ∀ e', ¬ LineFault name lines j e'

variable {name : String} {lines : List Bytes}

/-- The text of a line of a file is known from the line's bytes. -/
theorem text_unique {k : Nat} {text text' : String} (h : lines[k]? = some (utf8 text))
    (h' : lines[k]? = some (utf8 text')) : text = text' :=
  Text.utf8_injective (Option.some.inj (h.symm.trans h'))

/-- The title behind a front without repetitions that holds it already is the first repeated one. -/
theorem firstRepeated_of_fields {titles before after : List String} {title : String}
    (hfields : titles = before ++ title :: after) (hnodup : before.Nodup) (hmem : title ∈ before) :
    firstRepeated [] titles = some title :=
  firstRepeated_eq_some_iff.2 ⟨before, after, hfields, .inl hmem, hnodup, by simp⟩

/-- **A line has one fault at most.** -/
theorem LineFault.unique {k : Nat} {e e' : Error} (h : LineFault name lines k e)
    (h' : LineFault name lines k e') : e = e' := by
  cases h with
  | notText hline hutf =>
    cases h' with
    | notText => rfl
    | repeated hline' => exact absurd (Option.some.inj (hline.symm.trans hline')) (hutf _)
    | width _ hline' => exact absurd (Option.some.inj (hline.symm.trans hline')) (hutf _)
  | repeated hline hfields hnodup hmem =>
    cases h' with
    | notText hline' hutf => exact absurd (Option.some.inj (hline'.symm.trans hline)) (hutf _)
    | repeated hline' hfields' hnodup' hmem' =>
      obtain rfl := text_unique hline hline'
      have hfirst := firstRepeated_of_fields hfields hnodup hmem
      rw [firstRepeated_of_fields hfields' hnodup' hmem'] at hfirst
      rw [Option.some.inj hfirst]
    | width hheader' hline' hwidth =>
      rw [text_unique hline' hheader'] at hwidth
      exact absurd rfl hwidth
  | width hheader hline hwidth =>
    cases h' with
    | notText hline' hutf => exact absurd (Option.some.inj (hline'.symm.trans hline)) (hutf _)
    | repeated hline' =>
      rw [text_unique hline hheader] at hwidth
      exact absurd rfl hwidth
    | width hheader' hline' =>
      rw [text_unique hheader hheader', text_unique hline hline']

theorem FirstFault.unique {e e' : Error} (h : FirstFault name lines e)
    (h' : FirstFault name lines e') : e = e' := by
  obtain ⟨k, hfault, hnone⟩ := h
  obtain ⟨k', hfault', hnone'⟩ := h'
  obtain hlt | rfl | hlt := Nat.lt_trichotomy k k'
  · exact absurd hfault (hnone' k hlt e)
  · exact hfault.unique hfault'
  · exact absurd hfault' (hnone k' hlt e')

/-- Only a line can have a fault. -/
theorem LineFault.lt_length {k : Nat} {e : Error} (h : LineFault name lines k e) :
    k < lines.length := by
  cases h with
  | notText hline => exact (List.getElem?_eq_some_iff.1 hline).1
  | repeated hline => exact (List.getElem?_eq_some_iff.1 hline).1
  | width _ hline => exact (List.getElem?_eq_some_iff.1 hline).1

/-- **Lines of a table's file have no fault**: one is found behind them only. -/
theorem LineFault.length_lt {header : String} {rows : List String} {rest : List Bytes} {k : Nat}
    {e : Error} (hformatted : Formatted header rows)
    (h : LineFault name ((header :: rows).map utf8 ++ rest) k e) : rows.length < k := by
  by_contra hle
  have hk : k < (header :: rows).length := by
    rw [List.length_cons]
    omega
  have hat : ((header :: rows).map utf8 ++ rest)[k]? = some (utf8 (header :: rows)[k]) := by
    rw [List.getElem?_append_left (by simpa using hk), List.getElem?_map,
      List.getElem?_eq_getElem hk]
    rfl
  cases h with
  | notText hline hutf => exact hutf _ (Option.some.inj (hline.symm.trans hat))
  | repeated hline hfields _ hmem =>
    obtain rfl := Text.utf8_injective (Option.some.inj hline)
    have hnodup := hformatted.nodup
    rw [hfields] at hnodup
    exact List.disjoint_of_nodup_append hnodup hmem (by simp)
  | width hheader hline hwidth =>
    obtain rfl := Text.utf8_injective (Option.some.inj hheader)
    obtain rfl := text_unique hline hat
    rcases List.mem_cons.1 (List.getElem_mem hk) with heq | hmem
    · rw [heq] at hwidth
      exact hwidth rfl
    · exact hwidth (hformatted.length_eq _ hmem)

/-! ### Reading -/

theorem Formatted.not_firstFault {header : String} {rows : List String} {e : Error}
    (h : Formatted header rows) : ¬ FirstFault name ((header :: rows).map utf8) e := by
  rintro ⟨k, hfault, -⟩
  have hlt := hfault.lt_length
  rw [← List.append_nil ((header :: rows).map utf8)] at hfault
  have hle := LineFault.length_lt h hfault
  rw [List.length_map, List.length_cons] at hlt
  omega

/-- Lines are added up to the first that is not text or is not as wide as the table. -/
theorem addLines_eq_error {t : Table} {e : Error}
    (h : t.addLines name (lines.map Text.ofUtf8?) = .error e) :
    ∃ (rows : List String) (line : Bytes) (rest : List Bytes),
      lines = rows.map utf8 ++ line :: rest ∧
      (∀ row ∈ rows, (splitFields row).length = t.width) ∧
      ((∀ text, line ≠ utf8 text) ∧ e = .storage (.reading name .notUtf8) ∨
        ∃ row, line = utf8 row ∧ (splitFields row).length ≠ t.width ∧
          e = .rowWidth t.width (splitFields row).length) := by
  induction lines generalizing t with
  | nil => cases h
  | cons line lines ih =>
    rw [List.map_cons] at h
    cases hline : Text.ofUtf8? line with
    | none =>
      rw [hline] at h
      cases h
      refine ⟨[], line, lines, rfl, by simp, .inl ⟨fun text htext ↦ ?_, rfl⟩⟩
      rw [Text.ofUtf8?_eq_some_iff.2 htext] at hline
      cases hline
    | some text =>
      rw [hline, addLines] at h
      have htext := Text.ofUtf8?_eq_some_iff.1 hline
      split at h
      · next new t' hadd =>
        obtain ⟨hwidth, htitles, -⟩ := add_eq_ok hadd
        have ht' : t'.width = t.width := congrArg List.length htitles
        obtain ⟨rows, bad, rest, rfl, hrows, hbad⟩ := ih h
        rw [ht'] at hrows hbad
        exact ⟨text :: rows, bad, rest, by rw [htext]; rfl,
          List.forall_mem_cons.2 ⟨hwidth, hrows⟩, hbad⟩
      · next e' hadd =>
        cases h
        exact ⟨[], line, lines, rfl, by simp, .inr ⟨text, htext, add_eq_error_iff.1 hadd⟩⟩

variable {content : Bytes}

/-- **A table is read from lines that have the format**, and from no others. -/
theorem exists_decode_iff : (∃ t, decode name content = .ok t) ↔ ∃ header rows,
    Text.lines content = (header :: rows).map utf8 ∧ Formatted header rows := by
  constructor
  · rintro ⟨t, h⟩
    obtain ⟨header, rows, hlines, hnodup, hall⟩ := decode_eq_ok_iff.1 h
    have hfit := exists_addAll_iff.1 ⟨t, hall⟩
    refine ⟨header, rows, Text.map_ofUtf8?_eq_iff.1 hlines, hnodup, fun row hrow ↦ ?_⟩
    exact hfit (Row.ofLine row) (List.mem_map_of_mem hrow)
  · rintro ⟨header, rows, hlines, hformatted⟩
    obtain ⟨t, hall⟩ : ∃ t,
        (⟨splitFields header, []⟩ : Table).addAll (rows.map Row.ofLine) = .ok t := by
      refine exists_addAll_iff.2 fun r hr ↦ ?_
      obtain ⟨row, hrow, rfl⟩ := List.mem_map.1 hr
      exact hformatted.length_eq row hrow
    exact ⟨t, decode_eq_ok_iff.2
      ⟨header, rows, Text.map_ofUtf8?_eq_iff.2 hlines, hformatted.nodup, hall⟩⟩

/-- **What is read**: the fields of the first line as titles, and the others as the set of rows. -/
theorem rows_of_decode {t : Table} {header : String} {rows : List String}
    (hlines : Text.lines content = (header :: rows).map utf8) (h : decode name content = .ok t) :
    t.titles = splitFields header ∧ t.rows.Nodup ∧
      ∀ r : Row, r ∈ t.rows ↔ ∃ row ∈ rows, r.values = splitFields row := by
  obtain ⟨header', rows', hlines', hnodup, hall⟩ := decode_eq_ok_iff.1 h
  have htexts : header :: rows = header' :: rows' := by
    refine List.map_injective_iff.2 Text.utf8_injective (hlines.symm.trans ?_)
    exact Text.map_ofUtf8?_eq_iff.1 hlines'
  obtain ⟨rfl, rfl⟩ := List.cons.inj htexts
  have hnew := new_eq_ok_iff.2 ⟨Text.splitFields_ne_nil header, hnodup, rfl⟩
  obtain ⟨htitles, hfrom, -, hin⟩ := addAll_eq_ok hall
  refine ⟨htitles, ?_, fun r ↦ ⟨fun hr ↦ ?_, ?_⟩⟩
  · refine ((wellFormed_of_new hnew).addAll hall).pairwise_not_same.imp ?_
    rintro r _ hsame rfl
    exact hsame (.refl r)
  · rcases hfrom r hr with hr | hr
    · cases hr
    · obtain ⟨row, hrow, rfl⟩ := List.mem_map.1 hr
      exact ⟨row, hrow, rfl⟩
  · rintro ⟨row, hrow, hvalues⟩
    -- the row that was kept in its place is split from the same line
    obtain ⟨s, hs, hsame⟩ := hin (Row.ofLine row) (List.mem_map_of_mem hrow)
    rcases hfrom s hs with hs' | hs'
    · cases hs'
    · obtain ⟨row', -, rfl⟩ := List.mem_map.1 hs'
      rw [Row.Same, Row.joined_ofLine, Row.joined_ofLine] at hsame
      subst hsame
      rwa [show r = Row.ofLine row from congrArg Row.mk hvalues]

/-- Lines that do not have the format are refused for the first fault. -/
theorem firstFault_of_decode {e : Error} (hne : content ≠ [])
    (h : decode name content = .error e) : FirstFault name (Text.lines content) e := by
  rw [decode, Text.textLines] at h
  obtain ⟨line, rest, hlines⟩ := List.exists_cons_of_ne_nil (mt Text.lines_eq_nil_iff.1 hne)
  rw [hlines, List.map_cons] at h
  rw [hlines]
  cases hheader : Text.ofUtf8? line with
  | none =>
    rw [hheader] at h
    cases h
    refine ⟨0, .notText rfl fun text htext ↦ ?_, by simp⟩
    rw [Text.ofUtf8?_eq_some_iff.2 htext] at hheader
    cases hheader
  | some header =>
    rw [hheader, ofLines] at h
    obtain rfl := Text.ofUtf8?_eq_some_iff.1 hheader
    split at h
    · next t hnew =>
      obtain ⟨-, hnodup, rfl⟩ := new_eq_ok_iff.1 hnew
      obtain ⟨rows, bad, later, rfl, hrows, hbad⟩ := addLines_eq_error h
      have hformatted : Formatted header rows := ⟨hnodup, hrows⟩
      have hat : (utf8 header :: (rows.map utf8 ++ bad :: later))[rows.length + 1]? = some bad := by
        rw [List.getElem?_cons_succ, List.getElem?_append_right (by simp), List.length_map,
          Nat.sub_self]
        rfl
      refine ⟨rows.length + 1, ?_, fun j hj e' hfault ↦ ?_⟩
      · rcases hbad with ⟨hutf, rfl⟩ | ⟨row, rfl, hwidth, rfl⟩
        · exact .notText hat hutf
        · exact .width rfl hat hwidth
      · have hlt : rows.length < j := LineFault.length_lt hformatted hfault
        omega
    · next e' hnew =>
      cases h
      unfold new at hnew
      rw [if_neg (Text.splitFields_ne_nil header)] at hnew
      split at hnew
      · next title hrep =>
        cases hnew
        obtain ⟨before, after, hfields, hmem, hnodup, -⟩ := firstRepeated_eq_some_iff.1 hrep
        have hbefore : title ∈ before := hmem.resolve_right (List.not_mem_nil)
        exact ⟨0, .repeated rfl hfields hnodup hbefore, by simp⟩
      · cases hnew

/-- **The error of a file that is not read as a table** is that of its first faulty line, and of an
empty file that it has none. -/
theorem decode_eq_error_iff {e : Error} : decode name content = .error e ↔
    content = [] ∧ e = .storage .noHeader ∨ FirstFault name (Text.lines content) e := by
  by_cases hne : content = []
  · subst hne
    have hnone : ¬ FirstFault name (Text.lines []) e := by
      rintro ⟨k, hfault, -⟩
      exact absurd hfault.lt_length (Nat.not_lt_zero k)
    show Except.error (Error.storage .noHeader) = .error e ↔ _
    rw [or_iff_left hnone, and_iff_right rfl, Except.error.injEq, eq_comm]
  · rw [or_iff_right fun h ↦ hne h.1]
    refine ⟨firstFault_of_decode hne, fun hfirst ↦ ?_⟩
    cases hdecode : decode name content with
    | ok t =>
      obtain ⟨header, rows, hlines, hformatted⟩ := exists_decode_iff.1 ⟨t, hdecode⟩
      rw [hlines] at hfirst
      exact absurd hfirst hformatted.not_firstFault
    | error e' => rw [(firstFault_of_decode hne hdecode).unique hfirst]

/-- A file that is there is loaded by reading its content. -/
theorem perform_load {files : FileTree} {dir : String}
    (hfile : files.contentAt (Disk.tablePath dir name) = .ok content) :
    (files.perform (load dir name)).1 = decode name content := by
  rw [load, FileTree.perform, hfile]

/-- **What comes of reading a table from a file that is there.** A table is read if the lines of the
file have the format, and it then has the fields of the first for its titles and each of the others,
split into fields, for a row. Otherwise the error is that of the first line with a fault, or of an
empty file that it has no line. -/
theorem load_file {files : FileTree} {dir : String}
    (hfile : files.contentAt (Disk.tablePath dir name) = .ok content) :
    ∃ lines, (∀ ls, Text.Lined content ls ↔ ls = lines) ∧
      ((∃ t, (files.perform (load dir name)).1 = .ok t) ↔
        ∃ header rows, lines = (header :: rows).map utf8 ∧ Formatted header rows) ∧
      (∀ t, (files.perform (load dir name)).1 = .ok t → ∀ header rows,
        lines = (header :: rows).map utf8 → t.titles = splitFields header ∧ t.rows.Nodup ∧
          ∀ r : Row, r ∈ t.rows ↔ ∃ row ∈ rows, r.values = splitFields row) ∧
      ∀ e, (files.perform (load dir name)).1 = .error e ↔
        content = [] ∧ e = .storage .noHeader ∨ FirstFault name lines e := by
  rw [perform_load hfile]
  exact ⟨Text.lines content, fun ls ↦ Text.lined_iff, exists_decode_iff,
    fun t h header rows hlines ↦ rows_of_decode hlines h, fun e ↦ decode_eq_error_iff⟩

/-- Of three lines the last has no line feed, so it keeps its carriage return, and is a field
short. -/
theorem load_file_short :
    let content := utf8 "a,b\r\nx,y\nz\r"
    let files : FileTree := ⟨[(⟨.above 0, ["t.db"]⟩, .file content)]⟩
    files.contentAt (Disk.tablePath "" "t") = .ok content ∧
      Text.Lined content [utf8 "a,b", utf8 "x,y", utf8 "z\r"] ∧
      (files.perform (load "" "t")).1 = .error (.rowWidth 2 1) ∧
      FirstFault "t" [utf8 "a,b", utf8 "x,y", utf8 "z\r"] (.rowWidth 2 1) := by
  intro content files
  have hfile : files.contentAt (Disk.tablePath "" "t") = .ok content := by decide +kernel
  have hload : (files.perform (load "" "t")).1 = .error (.rowWidth 2 1) := by decide +kernel
  have hlines : Text.lines content = [utf8 "a,b", utf8 "x,y", utf8 "z\r"] := by decide +kernel
  obtain ⟨lines, hlined, -, -, herror⟩ := load_file hfile
  obtain rfl : _ = lines := (hlined _).1 (Text.lined_iff.2 hlines.symm)
  refine ⟨hfile, (hlined _).2 rfl, hload, ((herror _).1 hload).resolve_left ?_⟩
  rintro ⟨-, h⟩
  cases h

end Table

end Tabular
