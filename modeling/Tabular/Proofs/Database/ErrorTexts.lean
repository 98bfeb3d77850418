import Tabular.Proofs.Database.Refusals
import Tabular.Proofs.Database.Storable
import Tabular.Proofs.Message.OneLine
import Tabular.Proofs.Query.Faults
import Tabular.Proofs.Statement.Grammar
import Tabular.Proofs.Table.Format

/-!
# What the errors of statements show

An error shows texts that its statement holds, titles of tables, or a title out of the file that is
loaded, and of the disk only what the disk says itself. None of these breaks a line: a statement
that was read from text holds texts of tokens (`Statement.oneLine_texts`), and a title in a file
stands in one line of it (`Table.oneLine_texts_of_decode`). So whatever a text is refused for, the
message is one line (`Database.oneLine_message_of_execute`).

The texts of an error are those that its message shows as they are (`Error.texts`); tokens and
characters are quoted, and do not count. The message is one line exactly if its texts are. So what
is to be shown is where the texts come from. The faults of a query are listed by `Query.faults`, and
the texts in each are followed back to the query or to a title of a table; for that the property of
texts is left open, as `P`, since nothing about lines is used. Files and the disk come last: a title
in a file is part of a line, and what a tree of files answers is in words of its own.

In this way every refusal of a statement has its own case (`Database.Refuses`), and the last two
theorems put the cases together.
-/

namespace Tabular

open Disk (FileTree)
open Text (OneLine)

/-! ### Texts of statements -/

/-- The names, titles and values that a query is written with. -/
def Query.texts (q : Query) : List String :=
  q.tokens.filterMap Token.text?

/-- The names, titles and values that a statement is written with. -/
def Statement.texts (s : Statement) : List String :=
  s.tokens.filterMap Token.text?

theorem mem_commaSeparated_of_mem {items : List Token} {t : Token} (h : t ∈ items) :
    t ∈ commaSeparated items := by
  induction items with
  | nil => cases h
  | cons item items ih =>
    match items, h, ih with
    | [], h, _ => exact h
    | next :: rest, h, ih =>
      rcases List.mem_cons.1 h with rfl | h
      · exact List.mem_cons_self
      · exact List.mem_cons_of_mem _ (List.mem_cons_of_mem _ (ih h))

namespace Query

variable {q : Query}

theorem mem_texts_of_mem_tables {name : String} (h : name ∈ q.tables) : name ∈ q.texts := by
  have hmem : .ident name ∈ commaSeparated (q.tables.map .ident) :=
    mem_commaSeparated_of_mem (List.mem_map_of_mem h)
  exact List.mem_filterMap.2 ⟨.ident name, by simp [tokens, hmem], rfl⟩

theorem mem_texts_of_columns {titles : List String} (hselection : q.selection = .columns titles)
    {title : String} (h : title ∈ titles) : title ∈ q.texts := by
  have hmem : .ident title ∈ q.selection.tokens := by
    rw [hselection]
    exact mem_commaSeparated_of_mem (List.mem_map_of_mem h)
  exact List.mem_filterMap.2 ⟨.ident title, by simp [tokens, hmem], rfl⟩

theorem mem_texts_of_reads {c : Comparison} (hc : c ∈ q.comparisons) {title : String}
    (h : title ∈ c.reads) : title ∈ q.texts := by
  have htoken : .ident title ∈ c.tokens := by
    obtain ⟨column, relation, operand⟩ := c
    cases operand <;> simp_all [Comparison.reads, Comparison.tokens, Operand.tokens]
  have hmem : .ident title ∈ whereTokens q.comparisons := by
    cases hcs : q.comparisons with
    | nil => simp [hcs] at hc
    | cons c' cs =>
      rw [hcs] at hc
      rcases List.mem_cons.1 hc with rfl | hc
      · simp [whereTokens, htoken]
      · simp only [whereTokens, furtherTokens, List.mem_append, List.mem_flatMap]
        exact .inr ⟨c, hc, List.mem_cons_of_mem _ htoken⟩
  exact List.mem_filterMap.2 ⟨.ident title, by simp [tokens, hmem], rfl⟩

end Query

theorem Statement.mem_texts_create {name title : String} {titles : List String}
    (h : title ∈ titles) : title ∈ (create name (.columns titles)).texts := by
  have hmem : .ident title ∈ commaSeparated (titles.map .ident) :=
    mem_commaSeparated_of_mem (List.mem_map_of_mem h)
  exact List.mem_filterMap.2 ⟨.ident title, by simp [tokens, Contents.tokens, hmem], rfl⟩

/-- **A statement that was read from text holds texts of tokens**, in which nothing breaks a
line. -/
theorem Statement.oneLine_texts {text : String} {s : Statement}
    (h : Token.ofText text >>= ofTokens = .ok s) {shown : String} (hshown : shown ∈ s.texts) :
    OneLine shown := by
  obtain ⟨ts, hts, hread⟩ := bind_eq_ok_iff.1 h
  obtain ⟨spelling, hspelled, hprefix⟩ := ofTokens_eq_ok_iff.1 hread
  obtain ⟨t, ht, htext⟩ := List.mem_filterMap.1 hshown
  have hmem : t ∈ ts := by
    rcases spelled_iff.1 hspelled with ⟨-, rfl⟩ | ⟨rfl, -⟩
    · exact hprefix.subset (List.mem_append_left _ ht)
    · -- the word that ends a session holds no text, whichever it is
      rw [List.mem_singleton.1 ht] at htext
      cases htext
  intro hlf
  exact absurd (Token.not_isSeparator_of_ofText hts hmem htext _ hlf) (by decide)

/-! ### Texts of faults -/

variable {P : String → Prop} {db : Database}

/-- A title that no table has is shown as it was asked for. -/
theorem texts_of_mem_missing {tables : List Table} {titles : List String}
    (htitles : ∀ title ∈ titles, P title) {e : Error} (he : e ∈ missing tables titles) :
    ∀ text ∈ e.texts, P text := by
  obtain ⟨title, htitle, rfl⟩ := List.mem_map.1 he
  exact List.forall_mem_singleton.2 (htitles title (List.mem_filter.1 htitle).1)

theorem mem_of_mem_repetitions {texts : List String} {text : String}
    (h : text ∈ repetitions texts) : text ∈ texts := by
  obtain ⟨⟨_, k⟩, hmem, rfl⟩ := List.mem_map.1 h
  exact (List.mem_zipIdx (List.mem_filter.1 hmem).1).2.2 ▸ List.getElem_mem _

/-- What is wrong with titles shows these titles. -/
theorem texts_of_mem_titleFaults {tables : List Table} {titles : List String}
    (htitles : ∀ title ∈ titles, P title) {e : Error} (he : e ∈ titleFaults tables titles) :
    ∀ text ∈ e.texts, P text := by
  simp only [titleFaults, List.mem_append] at he
  rcases he with (he | he) | he
  · split at he
    · rw [List.mem_singleton.1 he]
      simp [Error.texts]
    · cases he
  · obtain ⟨title, htitle, rfl⟩ := List.mem_map.1 he
    exact List.forall_mem_singleton.2 (htitles title (mem_of_mem_repetitions htitle))
  · exact texts_of_mem_missing htitles he

theorem exists_mem_of_mem_allTitles {tables : List Table} {title : String}
    (h : title ∈ allTitles tables) : ∃ t ∈ tables, title ∈ t.titles := by
  match tables, h with
  | [t], h => exact ⟨t, by simp, h⟩
  | left :: right :: rest, h =>
    rcases Table.mem_starTitles_iff.1 h with h | h
    · exact ⟨left, by simp, h⟩
    · exact ⟨right, by simp, h⟩

/-- **What is wrong with a query shows texts of the query and titles of tables.** -/
theorem Query.texts_of_mem_faults {q : Query} (hdb : db.HoldsOnly P) (hq : ∀ text ∈ q.texts, P text)
    {e : Error} (he : e ∈ q.faults db) : ∀ text ∈ e.texts, P text := by
  simp only [faults, tableFaults, List.mem_append] at he
  rcases he with ((he | he) | he) | he
  · obtain ⟨name, hname, rfl⟩ := List.mem_map.1 he
    exact List.forall_mem_singleton.2
      (hq name (mem_texts_of_mem_tables (List.mem_filter.1 hname).1))
  · split at he
    · cases he
    · rw [List.mem_singleton.1 he]
      simp [Error.texts, Malformation.texts]
  · refine texts_of_mem_missing (fun title htitle ↦ ?_) he
    obtain ⟨c, hc, hreads⟩ := List.mem_flatMap.1 htitle
    exact hq title (mem_texts_of_reads hc hreads)
  · refine texts_of_mem_titleFaults (fun title htitle ↦ ?_) he
    cases hselection : q.selection with
    | columns titles =>
      rw [Query.titles, hselection] at htitle
      exact hq title (mem_texts_of_columns hselection htitle)
    | all =>
      rw [Query.titles, hselection] at htitle
      obtain ⟨t, ht, hmem⟩ := exists_mem_of_mem_allTitles htitle
      obtain ⟨name, -, hname⟩ := List.mem_filterMap.1 ht
      exact (hdb.of_table? hname).title title hmem

/-! ### Texts of files and of the disk -/

namespace Table

variable {name : String}

/-- Titles are refused for one of them, and that one is shown. -/
theorem texts_of_new {titles : List String} {e : Error} (h : new titles = .error e)
    (htitles : ∀ title ∈ titles, P title) : ∀ text ∈ e.texts, P text := by
  have hmem := List.mem_of_mem_head? (((reports_new titles).eq_error_iff e).1 h)
  have hfault : e ∈ titleFaults [] titles := List.mem_append_left _ hmem
  exact texts_of_mem_titleFaults htitles hfault

/-- **What is wrong with a file shows the name of the table and a title of its first line**, and a
title in a line is in one line. -/
theorem oneLine_texts_of_decode {content : Text.Bytes} {e : Error}
    (h : decode name content = .error e) (hname : OneLine name) :
    ∀ text ∈ e.texts, OneLine text := by
  rcases decode_eq_error_iff.1 h with ⟨-, rfl⟩ | ⟨k, hfault, -⟩
  · simp [Error.texts, StorageFault.texts]
  · cases hfault with
    | notText => simpa [Error.texts, StorageFault.texts, Disk.Fault.texts] using hname
    | @repeated header title before after hline hfields _ hmem =>
      refine List.forall_mem_singleton.2 fun hlf ↦ ?_
      have hheader : '\n' ∉ header.toList := by
        have hmem := Text.lf_not_mem_of_mem_lines (List.mem_of_getElem? hline)
        exact mt Text.lf_mem_utf8_iff.2 hmem
      have hfield : title ∈ Text.splitFields header := by simp [hfields, hmem]
      exact hheader (Text.mem_of_mem_splitFields (by decide) hfield hlf)
    | width => simp [Error.texts]

end Table

namespace Disk.FileTree

variable {files : FileTree} {path : String} {fault : Fault}

theorem texts_of_follow {here : Place} {names : List String}
    (h : files.follow here names = .error fault) : fault.texts = [] := by
  induction names generalizing here with
  | nil => cases h
  | cons name names ih =>
    rw [follow] at h
    split at h
    · cases h
      rfl
    · cases h
      rfl
    · split at h
      · cases h
        rfl
      · exact ih h

theorem texts_of_locate (h : files.locate path = .error fault) : fault.texts = [] := by
  unfold locate at h
  split at h
  · cases h
    rfl
  split at h
  · cases h
    rfl
  split at h
  · cases h
    rfl
  · exact texts_of_follow h

/-- What a tree of files says about a fault is in no words of others. -/
theorem texts_of_contentAt (h : files.contentAt path = .error fault) : fault.texts = [] := by
  rcases bind_eq_error_iff.1 h with h | ⟨place, -, h⟩
  · exact texts_of_locate h
  · split at h <;> cases h <;> rfl

theorem texts_of_write {content : Text.Bytes} (h : files.write path content = .error fault) :
    fault.texts = [] := by
  rcases bind_eq_error_iff.1 h with h | ⟨place, -, h⟩
  · exact texts_of_locate h
  · split at h <;> cases h
    rfl

end Disk.FileTree

namespace Table

variable {files : FileTree} {dir name : String} {e : Error}

/-- What is wrong with loading shows the name of the table and titles of the file. -/
theorem oneLine_texts_of_load (h : (files.perform (load dir name)).1 = .error e)
    (hname : OneLine name) : ∀ text ∈ e.texts, OneLine text := by
  simp only [load, FileTree.perform] at h
  split at h
  · exact oneLine_texts_of_decode h hname
  · cases h
    exact List.forall_mem_singleton.2 hname
  · next fault _ hread =>
    cases h
    have htexts : fault.texts = [] := Disk.FileTree.texts_of_contentAt hread
    simpa [Error.texts, StorageFault.texts, htexts] using hname

theorem oneLine_texts_of_save {t : Table} {order : RowOrder}
    (h : (files.perform (t.save order dir name)).1 = .error e) (hname : OneLine name) :
    ∀ text ∈ e.texts, OneLine text := by
  rw [save, FileTree.perform] at h
  split at h
  · cases h
  · next fault hwrite =>
    cases h
    have htexts : fault.texts = [] := Disk.FileTree.texts_of_write hwrite
    simpa [Error.texts, StorageFault.texts, htexts] using hname

end Table

/-! ### What statements and texts are refused for -/

/-- What is wrong with lexemes shows no text as it is, only a character, which is quoted. -/
theorem Malformation.Lexical.texts_eq_nil {fault : Malformation} (h : fault.Lexical) :
    fault.texts = [] := by
  cases fault <;> first | rfl | cases h

/-- What is wrong with the form of a statement shows tokens, which are quoted too. -/
theorem Malformation.InStatement.texts_eq_nil {fault : Malformation} (h : fault.InStatement) :
    fault.texts = [] := by
  cases fault <;> first | rfl | cases h

namespace Database

variable {passes : Passes} {files : FileTree} {e : Error}

/-- A query is refused for one of its faults, and these show its own texts and titles of tables. -/
theorem texts_of_select {q : Query} (hwf : db.WellFormed) (hdb : db.HoldsOnly P)
    (hq : ∀ text ∈ q.texts, P text) (h : db.select passes q = .error (.error e)) :
    ∀ text ∈ e.texts, P text := by
  have hhead := ((reports_select hwf passes q).eq_error_iff (.error e)).1 h
  obtain ⟨e', he', heq⟩ := List.mem_map.1 (List.mem_of_mem_head? hhead)
  cases heq
  exact q.texts_of_mem_faults hdb hq he'

/-- **What a statement is refused for shows texts that are in one line**, if those of the statement
and of the database are. -/
theorem oneLine_texts_of_run {s : Statement} (hwf : db.WellFormed) (hdb : db.HoldsOnly OneLine)
    (hs : ∀ text ∈ s.texts, OneLine text)
    (h : (files.perform (db.run passes s)).1.1 = .error (.error e)) :
    ∀ text ∈ e.texts, OneLine text := by
  cases (refuses_of_run (Prod.ext h rfl)).1 with
  | @create name contents _ hmake =>
    cases contents with
    | columns titles =>
      obtain ⟨e', hnew, heq⟩ := Failure.ofExcept_eq_error_iff.1 hmake
      cases heq
      exact Table.texts_of_new hnew fun title htitle ↦ hs title (Statement.mem_texts_create htitle)
    | query q => exact texts_of_select hwf hdb (List.forall_mem_cons.1 hs).2 hmake
  | load hload => exact Table.oneLine_texts_of_load hload (hs _ List.mem_cons_self)
  | store _ hsave => exact Table.oneLine_texts_of_save hsave (hs _ List.mem_cons_self)
  | insert _ hadd =>
    unfold Table.add at hadd
    split at hadd
    · cases hadd
      simp [Error.texts]
    · split at hadd <;> cases hadd
  | select hselect => exact texts_of_select hwf hdb hs hselect
  | unknownTable _ hnamed =>
    refine List.forall_mem_singleton.2 (hs _ ?_)
    rcases hnamed with rfl | ⟨values, rfl⟩ | rfl <;> exact List.mem_cons_self

/-- **Whatever a text is refused for, the message is one line.** -/
theorem oneLine_message_of_execute {text : String} (hwf : db.WellFormed)
    (hdb : db.HoldsOnly OneLine)
    (h : (files.perform (db.execute passes text)).1.1 = .error (.error e)) : OneLine e.message := by
  rw [Error.oneLine_message_iff]
  rw [execute] at h
  split at h
  · next s hread => exact oneLine_texts_of_run hwf hdb (fun _ ↦ Statement.oneLine_texts hread) h
  · next f hread =>
    -- what is wrong with lexemes or tokens is shown in quotation marks
    obtain rfl : f = .error e := Except.error.inj h
    rcases bind_eq_error_iff.1 hread with hread | ⟨ts, hts, hread⟩
    · obtain ⟨fault, heq, hfault⟩ := Token.ofText_eq_error hread
      cases heq
      simp [Error.texts, hfault.texts_eq_nil]
    · obtain ⟨us, rfl, -⟩ := Token.ofText_eq_ok_iff.1 hts
      obtain ⟨fault, heq, hfault | ⟨found, front, after, rfl, hafter⟩⟩ :=
        Statement.ofTokens_eq_error (by simp) hread
      · cases heq
        simp [Error.texts, hfault.texts_eq_nil]
      · cases heq
        simp [Error.texts, Malformation.texts]

end Database

end Tabular
