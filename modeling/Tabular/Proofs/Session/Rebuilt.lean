import Tabular.Proofs.Database.Effect
import Tabular.Proofs.Session.Statements

/-!
# Tables rebuilt by scripts

A table whose titles are names and whose values can be quoted is made again by a script that
creates it and inserts its rows, in any order (`Session.run_rebuilding`). The script is carried out
without a word over any database, and changes nothing but this one table.

Semicolons, blanks and empty values in literals are no exception: the script is cut and read by its
tokens (`Session.run_of_reads`), and only then are there rows.

The argument has two halves that do not know of each other. One is about writing: titles that are
names and values that can be quoted have lexemes, so the script reads as the tokens of its
statements (`Table.Spellable.exists_lexeme`). The other is about statements: creating the table
makes it empty, and each row is new to the rows before it, since no two rows of the table are the
same (`Session.carryOut_inserts`).
-/

namespace Tabular

/-- Whether a text can be written as the name of a table or a column: a word that is no keyword. -/
def IsName (name : String) : Prop :=
  Token.IsWord name.toList ∧ Keyword.ofWord? name.toList = none

instance (name : String) : Decidable (IsName name) :=
  inferInstanceAs (Decidable (_ ∧ _))

namespace Table

/-- Whether a table's titles can be written as names and its values as literals. -/
structure Spellable (t : Table) : Prop where
  titles : ∀ title ∈ t.titles, IsName title
  values : ∀ r ∈ t.rows, ∀ value ∈ r.values, ∀ c ∈ value.toList, isLiteralChar c = true

/-- The statements that make a table of this name with the columns of this one, and insert rows. -/
def rebuilding (t : Table) (name : String) (rows : List Row) : List Statement :=
  .create name (.columns t.titles) :: rows.map fun r ↦ .insert name r.values

variable {t : Table} {name : String} {rows : List Row}

/-- A well-formed table has columns, and so the statements that make it can be spelled. -/
theorem WellFormed.spellable_rebuilding (ht : t.WellFormed) (hrows : rows.Perm t.rows)
    (name : String) : ∀ statement ∈ t.rebuilding name rows, statement.Spellable := by
  refine List.forall_mem_cons.2 ⟨ht.titles_ne_nil, ?_⟩
  rintro _ hmem
  obtain ⟨r, hr, rfl⟩ := List.mem_map.1 hmem
  exact ht.values_ne_nil (hrows.mem_iff.1 hr)

theorem exists_lexeme_commaSeparated {items : List Token}
    (h : ∀ token ∈ items, ∃ text, Token.Lexeme token text) :
    ∀ token ∈ commaSeparated items, ∃ text, Token.Lexeme token text := by
  intro token hmem
  rcases mem_commaSeparated hmem with rfl | hmem
  · exact ⟨[','], .symbol rfl⟩
  · exact h token hmem

/-- All tokens of the statements have lexemes. -/
theorem Spellable.exists_lexeme (h : t.Spellable) (hname : IsName name)
    (hrows : rows.Perm t.rows) :
    ∀ statement ∈ t.rebuilding name rows, ∀ token ∈ statement.tokens,
      ∃ text, Token.Lexeme token text := by
  have hkeyword (k : Keyword) : ∃ text, Token.Lexeme (.keyword k) text :=
    ⟨_, Token.ofWord_spelling k ▸ (Token.isWord_spelling k).lexeme⟩
  have hident {name : String} (h : IsName name) : ∃ text, Token.Lexeme (.ident name) text :=
    ⟨_, Token.lexeme_ident h.1 h.2⟩
  refine List.forall_mem_cons.2 ⟨?_, ?_⟩
  · have htitles := exists_lexeme_commaSeparated <| List.forall_mem_map.2
      fun title htitle ↦ hident (h.titles title htitle)
    simpa [Statement.tokens, Contents.tokens, hkeyword, hident hname, or_imp, forall_and] using
      ⟨⟨['('], .symbol rfl⟩, htitles, ⟨[')'], .symbol rfl⟩⟩
  · refine List.forall_mem_map.2 fun r hr ↦ ?_
    have hvalues := exists_lexeme_commaSeparated <| List.forall_mem_map.2
      fun value hvalue ↦ ⟨_, Token.lexeme_literal (h.values r (hrows.mem_iff.1 hr) value hvalue)⟩
    simpa [Statement.tokens, hkeyword, hident hname, or_imp, forall_and] using hvalues

end Table

theorem Database.Replaced.trans {db db' db'' : Database} {name : String} {t t' : Table}
    (h : db.Replaced name t db') (h' : db'.Replaced name t' db'') : db.Replaced name t' db'' where
  dataDir := h'.dataDir.trans h.dataDir
  table? := h'.table?
  others other hother := (h'.others other hother).trans (h.others other hother)

namespace Session

variable {passes : Nat → Passes}

/-- A statement that nothing is written about makes way for the next one. -/
theorem carryOut_cons_of_quiet {statement : Statement} {s : State} {db : Database}
    {outcome : Except Failure Output}
    (hrun : s.database.run (passes s.statements) statement = .done (outcome, db))
    (hquiet : db.report (passes s.statements).shown outcome = ([], .goOn)) (ss : List Statement) :
    carryOut passes (statement :: ss) s = carryOut passes ss ⟨db, s.files, s.statements + 1⟩ := by
  rw [carryOut, hrun]
  simp only [Disk.FileTree.perform, hquiet]
  rfl

/-- **Rows that are new to a table are inserted without a word**, one after the other. -/
theorem carryOut_inserts (passes : Nat → Passes) {name : String} {rows : List Row} {s : State}
    {t : Table}
    (ht : s.database.table? name = some t) (hwidth : ∀ r ∈ rows, r.width = t.width)
    (hnew : (t.rows ++ rows).Pairwise fun r r' ↦ ¬ r.Same r') :
    ∃ db, carryOut passes (rows.map fun r ↦ .insert name r.values) s =
        ⟨[], ⟨db, s.files, s.statements + rows.length⟩, .goOn⟩ ∧
      s.database.Replaced name ⟨t.titles, t.rows ++ rows⟩ db := by
  induction rows generalizing s t with
  | nil =>
    refine ⟨s.database, rfl, rfl, ?_, fun _ _ ↦ rfl⟩
    rw [ht, List.append_nil]
  | cons r rows ih =>
    obtain ⟨hr, hwidth⟩ := List.forall_mem_cons.1 hwidth
    have hadd : t.add r = .ok (true, ⟨t.titles, t.rows ++ [r]⟩) := by
      refine Table.add_eq_ok_iff.2 ⟨hr, .inr ⟨rfl, fun r' hr' hsame ↦ ?_, rfl⟩⟩
      exact (List.pairwise_append.1 hnew).2.2 r' hr' r List.mem_cons_self hsame.symm
    have hrun : s.database.run (passes s.statements) (.insert name r.values) =
        .done (.ok (.inserted name true), s.database.put name ⟨t.titles, t.rows ++ [r]⟩) := by
      simp only [Database.run, Database.table_eq_ok_iff.2 ht, hadd]
    have hput : (s.database.put name ⟨t.titles, t.rows ++ [r]⟩).table? name =
        some ⟨t.titles, t.rows ++ [r]⟩ := Database.table?_put ..
    rw [List.append_cons] at hnew ⊢
    obtain ⟨db, hplay, hdb⟩ := ih (s := ⟨_, s.files, s.statements + 1⟩) hput hwidth hnew
    have hcount : s.statements + 1 + rows.length = s.statements + (rows.length + 1) := by omega
    refine ⟨db, ?_, (Database.replaced_put ..).trans hdb⟩
    rw [List.length_cons, ← hcount]
    exact (carryOut_cons_of_quiet hrun rfl _).trans hplay

/-- **A table is made again by its statements.** -/
theorem carryOut_rebuilding (passes : Nat → Passes) {t : Table} (ht : t.WellFormed)
    {rows : List Row} (hrows : rows.Perm t.rows) (name : String) (s : State) :
    ∃ db, carryOut passes (t.rebuilding name rows) s =
        ⟨[], ⟨db, s.files, s.statements + (rows.length + 1)⟩, .goOn⟩ ∧
      s.database.Replaced name ⟨t.titles, rows⟩ db := by
  have hnew : Table.new t.titles = .ok ⟨t.titles, []⟩ :=
    Table.new_eq_ok_iff.2 ⟨ht.titles_ne_nil, ht.nodup_titles, rfl⟩
  have hrun : s.database.run (passes s.statements) (.create name (.columns t.titles)) =
      .done (.ok (.created name), s.database.put name ⟨t.titles, []⟩) := by
    simp only [Database.run, Database.make, hnew, Failure.ofExcept]
  have hput : (s.database.put name ⟨t.titles, []⟩).table? name = some ⟨t.titles, []⟩ :=
    Database.table?_put ..
  -- no two rows of the table are the same, so none of them is there already in any order
  have hpairwise : ([] ++ rows).Pairwise fun r r' : Row ↦ ¬ r.Same r' :=
    (hrows.pairwise_iff fun h h' ↦ h h'.symm).2 ht.pairwise_not_same
  obtain ⟨db, hplay, hdb⟩ := carryOut_inserts passes (s := ⟨_, s.files, s.statements + 1⟩) hput
    (fun r hr ↦ ht.width_eq r (hrows.mem_iff.1 hr)) hpairwise
  have hcount : s.statements + 1 + rows.length = s.statements + (rows.length + 1) := by omega
  refine ⟨db, ?_, (Database.replaced_put ..).trans hdb⟩
  rw [← hcount]
  exact (carryOut_cons_of_quiet hrun rfl _).trans hplay

/-- **A table is made again by a script**, over any database, in any tree of files and with its rows
in any order. Nothing is written, no file is changed and no other table. A script that lays out the
same tokens in another way does the same. -/
theorem run_rebuilding {t : Table} (ht : t.WellFormed) (hspell : t.Spellable) {name : String}
    (hname : IsName name) {rows : List Row} (hrows : rows.Perm t.rows) (passes : Nat → Passes)
    (s : State) :
    let script := Statement.script (t.rebuilding name rows)
    ∃ db, run none passes (Text.utf8 script) s =
        ⟨[], ⟨db, s.files, s.statements + (rows.length + 1)⟩, .finish⟩ ∧
      s.database.Replaced name ⟨t.titles, rows⟩ db ∧
      ∀ text, Token.ofText text = Token.ofText script →
        run none passes (Text.utf8 text) s = run none passes (Text.utf8 script) s := by
  intro script
  have hread := Statement.ofText_script (hspell.exists_lexeme hname hrows)
  have hspellable := ht.spellable_rebuilding hrows name
  obtain ⟨db, hplay, hdb⟩ := carryOut_rebuilding passes ht hrows name s
  refine ⟨db, ?_, hdb, fun text htext ↦ ?_⟩
  · rw [run_of_reads hspellable hread, hplay]
    rfl
  · rw [run_of_reads hspellable hread, run_of_reads hspellable (htext.trans hread)]

/-- A semicolon and no character at all as values, and the same script in one line. -/
theorem run_rebuilding_semicolon :
    let t : Table := ⟨["a"], [⟨[";"]⟩, ⟨[""]⟩]⟩
    let rows : List Row := [⟨[""]⟩, ⟨[";"]⟩]
    let oneLine := "CREATE TABLE t(a);insert into t values'';insert into t values';';"
    t.WellFormed ∧ t.Spellable ∧ IsName "t" ∧ rows.Perm t.rows ∧
      Token.ofText oneLine = Token.ofText (Statement.script (t.rebuilding "t" rows)) ∧
      ∃ db, run none (fun _ ↦ .arrival) (Text.utf8 oneLine) ⟨.empty "", .empty, 0⟩ =
          ⟨[], ⟨db, .empty, 3⟩, .finish⟩ ∧
        db.table? "t" = some ⟨["a"], rows⟩ := by
  intro t rows oneLine
  have ht : t.WellFormed := ⟨by decide, by decide, by decide, by decide⟩
  have hvalues : t.rows.all (fun r ↦ r.values.all fun v ↦ v.toList.all isLiteralChar) = true := by
    decide
  have hspell : t.Spellable := ⟨by decide, by simpa only [List.all_eq_true] using hvalues⟩
  have hname : IsName "t" := by decide
  have hrows : rows.Perm t.rows := by decide
  have hlayout : Token.ofText oneLine =
      Token.ofText (Statement.script (t.rebuilding "t" rows)) := by
    rw [Statement.ofText_script (hspell.exists_lexeme hname hrows)]
    decide +kernel
  obtain ⟨db, hrun, hdb, hsame⟩ :=
    run_rebuilding ht hspell hname hrows (fun _ ↦ .arrival) ⟨.empty "", .empty, 0⟩
  refine ⟨ht, hspell, hname, hrows, hlayout, db, ?_, hdb.table?⟩
  rw [hsame oneLine hlayout]
  exact hrun

example : Statement.script (Table.rebuilding ⟨["a", "b"], []⟩ "t" [⟨["x;y", ""]⟩]) =
    "create table t (a, b);\ninsert into t values 'x;y', '';\n" := by
  decide

end Session

end Tabular
