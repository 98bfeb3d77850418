import Tabular.Proofs.Query.Nested
import Tabular.Proofs.Table.Reordered

/-!
# Comparisons divide results

Of two texts one is less than the other or they are equal, so exactly one of `<`, `=` and `>` holds
between them (`Relation.between`), and each of the six relations allows some of these three
(`Relation.holds_iff`).

If no value holds a comma, adding a comparison to a query keeps those rows of its result for which
the comparison holds under the titles of the result (`Database.select_adding`): rows of the sources
that make one row of the result have the same values there. A query for all columns shows every
value that can be compared. So the comparisons of one column with one operand divide its result by
relation (`Database.select_divided`).

A relation is the set of those among `<`, `=` and `>` that it allows (`Relation.parts`). So the four
unions are one statement about filtering a list by a key (`perm_flatMap_filter`), where the key of a
row is how its two values stand to each other (`Comparison.standing`). That the key is always there
takes a title for each side, which a query for all columns has.

Results are compared as permutations of each other. A table has no row twice, so this says that the
parts have no row in common and leave none out.

## Two comparisons of texts

All six relations are told by `<` and by equality of texts. That `≤` is "less or equal" and not only
"not greater" is what the order being total gives, and it comes in at one place
(`Relation.holds_iff`).
-/

namespace Tabular

/-! ### Three of the relations -/

namespace Relation

/-- Which of `lt`, `eq` and `gt` holds between two texts. -/
def between (l r : String) : Relation :=
  if l < r then lt else if r < l then gt else eq

/-- Those of `lt`, `eq` and `gt` that the relation allows. -/
def parts : Relation → List Relation
  | lt => [lt]
  | eq => [eq]
  | gt => [gt]
  | le => [lt, eq]
  | ne => [lt, gt]
  | ge => [gt, eq]

/-- The relation with its sides exchanged. -/
def mirrored : Relation → Relation
  | eq => eq
  | ne => ne
  | lt => gt
  | le => ge
  | gt => lt
  | ge => le

theorem nodup_parts (r : Relation) : r.parts.Nodup := by
  cases r <;> decide

/-- Each of the three allows itself and nothing else. -/
theorem parts_of_mem {r part : Relation} (h : part ∈ r.parts) : part.parts = [part] := by
  cases r <;> cases part <;> simp [parts] at h ⊢

theorem between_mem (l r : String) : between l r ∈ [lt, eq, gt] := by
  unfold between
  split
  · simp
  · split <;> simp

/-- **A relation holds if it allows what holds** of less, equal and greater. -/
theorem holds_iff {rel : Relation} {l r : String} :
    rel.holds l r = true ↔ between l r ∈ rel.parts := by
  unfold between
  by_cases hlt : l < r
  · have hne : l ≠ r := by
      rintro rfl
      exact String.lt_irrefl l hlt
    rw [if_pos hlt]
    cases rel <;> simp [holds, parts, hlt, hne, String.lt_asymm hlt]
  · rw [if_neg hlt]
    by_cases hgt : r < l
    · have hne : l ≠ r := by
        rintro rfl
        exact hlt hgt
      rw [if_pos hgt]
      cases rel <;> simp [holds, parts, hlt, hgt, hne]
    · obtain rfl : l = r := String.le_antisymm (String.not_lt.1 hgt) (String.not_lt.1 hlt)
      have hless : decide (l < l) = false := decide_eq_false hlt
      rw [if_neg hgt]
      cases rel <;> simp only [holds, hless, beq_self_eq_true, bne_self_eq_false] <;> decide

/-- A relation with its sides exchanged holds the other way round. -/
theorem holds_mirrored (rel : Relation) (l r : String) :
    rel.mirrored.holds r l = rel.holds l r := by
  cases rel with
  | eq => exact Bool.beq_comm
  | ne => exact bne_comm
  | _ => rfl

end Relation

/-! ### Rows that meet a comparison -/

/-- Rows that are told apart by keys, arranged key by key. -/
theorem perm_flatMap_filter {α κ : Type} [DecidableEq κ] (key : α → Option κ) (as : List α)
    {ks : List κ} (hks : ks.Nodup) :
    (as.filter fun a ↦ ∃ k ∈ ks, key a = some k).Perm
      (ks.flatMap fun k ↦ as.filter (key · = some k)) := by
  induction ks with
  | nil => simp
  | cons k ks ih =>
    obtain ⟨hk, hks⟩ := List.nodup_cons.1 hks
    rw [List.flatMap_cons]
    refine (List.filter_append_perm (key · = some k) _).symm.trans (.append ?_ ?_)
    · rw [List.filter_filter]
      refine .of_eq (List.filter_congr fun a _ ↦ ?_)
      simp +contextual
    · rw [List.filter_filter]
      refine .trans (.of_eq (List.filter_congr fun a _ ↦ ?_)) (ih hks)
      by_cases ha : key a = some k
      · simp [ha, hk]
      · simp [ha]

namespace Comparison

/-- Which of `lt`, `eq` and `gt` holds between the values of a column and of an operand, where
values are read by title. -/
def standing (read : String → Option String) (x : String) (y : Operand) : Option Relation := do
  return .between (← read x) (← y.read read)

variable {read : String → Option String} {x : String} {y : Operand} {r : Relation}

/-- A comparison holds if its relation allows how the values stand. -/
theorem holds_iff_standing :
    (⟨x, r, y⟩ : Comparison).Holds read ↔ ∃ part ∈ r.parts, standing read x y = some part := by
  simp only [Holds, standing, Relation.holds_iff]
  constructor
  · rintro ⟨l, v, hl, hv, hmem⟩
    exact ⟨_, hmem, by simp [hl, hv]⟩
  · rintro ⟨part, hpart, h⟩
    obtain ⟨l, hl, h⟩ := Option.bind_eq_some_iff.1 h
    obtain ⟨v, hv, h⟩ := Option.bind_eq_some_iff.1 h
    cases h
    exact ⟨l, v, hl, hv, hpart⟩

/-- Two columns compared the other way round. -/
theorem holds_mirrored_iff {title : String} :
    (⟨title, r.mirrored, .column x⟩ : Comparison).Holds read ↔
      (⟨x, r, .column title⟩ : Comparison).Holds read := by
  simp only [Holds, Operand.read, ← r.holds_mirrored]
  constructor
  · rintro ⟨l, v, hl, hv, h⟩
    exact ⟨v, l, hv, hl, h⟩
  · rintro ⟨l, v, hl, hv, h⟩
    exact ⟨v, l, hv, hl, h⟩

/-- The titles that are read are that of the column and that of the operand, if it is a column. -/
theorem forall_reads_iff {P : String → Prop} :
    (∀ title ∈ (⟨x, r, y⟩ : Comparison).reads, P title) ↔
      P x ∧ ∀ title, y = .column title → P title := by
  cases y <;> simp [reads]

end Comparison

namespace Table

variable {t : Table}

/-- The table with those of its rows for which a comparison holds. -/
def meeting (t : Table) (c : Comparison) : Table :=
  { t with rows := t.rows.filter fun row ↦ c.Holds (t.read row) }

/-- The rows that meet a comparison are told by how their values stand. -/
theorem rows_meeting (t : Table) (x : String) (r : Relation) (y : Operand) :
    (t.meeting ⟨x, r, y⟩).rows =
      t.rows.filter fun row ↦ ∃ part ∈ r.parts, Comparison.standing (t.read row) x y = some part :=
  List.filter_congr fun _ _ ↦ decide_eq_decide.2 Comparison.holds_iff_standing

theorem rows_meeting_of_mem {x : String} {y : Operand} {r part : Relation} (h : part ∈ r.parts) :
    (t.meeting ⟨x, part, y⟩).rows =
      t.rows.filter fun row ↦ Comparison.standing (t.read row) x y = some part := by
  rw [rows_meeting, Relation.parts_of_mem h]
  simp

/-- **The rows that meet a comparison are those that meet one of its parts**, each of them once. -/
theorem rows_meeting_perm (t : Table) (x : String) (r : Relation) (y : Operand) :
    (t.meeting ⟨x, r, y⟩).rows.Perm (r.parts.flatMap fun part ↦ (t.meeting ⟨x, part, y⟩).rows) := by
  rw [rows_meeting, List.flatMap_congr fun part hpart ↦ rows_meeting_of_mem hpart]
  exact perm_flatMap_filter _ _ r.nodup_parts

/-- **All rows of a table meet one of three comparisons**, if it has the titles that are read. -/
theorem rows_perm_meeting (ht : t.WellFormed) {x : String} {y : Operand}
    (hx : x ∈ t.titles) (hy : ∀ title, y = .column title → title ∈ t.titles) :
    t.rows.Perm ([.lt, .eq, .gt].flatMap fun part ↦ (t.meeting ⟨x, part, y⟩).rows) := by
  have hread {row : Row} (hrow : row ∈ t.rows) {title : String} (h : title ∈ t.titles) :
      ∃ v, t.read row title = some v := by
    obtain ⟨k, hk⟩ := Option.ne_none_iff_exists'.1 (mt slot?_eq_none_iff.1 (not_not_intro h))
    obtain ⟨v, -, hv⟩ := exists_get?_of_slot? (ht.width_eq row hrow) hk
    exact ⟨v, hv⟩
  have hall : t.rows = t.rows.filter fun row ↦
      ∃ part ∈ [Relation.lt, .eq, .gt], Comparison.standing (t.read row) x y = some part := by
    refine (List.filter_eq_self.2 fun row hrow ↦ decide_eq_true ?_).symm
    obtain ⟨l, hl⟩ := hread hrow hx
    obtain ⟨v, hv⟩ : ∃ v, y.read (t.read row) = some v := by
      cases y with
      | column title => exact hread hrow (hy title rfl)
      | literal value => exact ⟨value, rfl⟩
    exact ⟨.between l v, Relation.between_mem l v, by simp [Comparison.standing, hl, hv]⟩
  have hparts : ∀ part ∈ [Relation.lt, .eq, .gt], part ∈ part.parts := by decide
  rw [List.flatMap_congr fun part hpart ↦ rows_meeting_of_mem (hparts part hpart)]
  exact (List.Perm.of_eq hall).trans (perm_flatMap_filter _ _ (by decide))

theorem meeting_mirrored (t : Table) (x title : String) (r : Relation) :
    t.meeting ⟨title, r.mirrored, .column x⟩ = t.meeting ⟨x, r, .column title⟩ := by
  simp only [meeting, Comparison.holds_mirrored_iff]

/-- Three tables have the rows of a table between them, none of them twice, and three more tables
have those of two of the three each. -/
structure Divided (t : Table) (part : Relation → Table) : Prop where
  nodup : ((part .lt).rows ++ (part .eq).rows ++ (part .gt).rows).Nodup
  rows : t.rows.Perm ((part .lt).rows ++ (part .eq).rows ++ (part .gt).rows)
  le : (part .le).rows.Perm ((part .lt).rows ++ (part .eq).rows)
  ne : (part .ne).rows.Perm ((part .lt).rows ++ (part .gt).rows)
  ge : (part .ge).rows.Perm ((part .gt).rows ++ (part .eq).rows)

/-- **Comparing a column with an operand in all ways divides a table.** -/
theorem divided_of_meeting (ht : t.WellFormed) {x : String} {y : Operand} (hx : x ∈ t.titles)
    (hy : ∀ title, y = .column title → title ∈ t.titles) {part : Relation → Table}
    (hpart : ∀ r, (t.meeting ⟨x, r, y⟩).rows.Perm (part r).rows) : t.Divided part := by
  have hparts (r : Relation) : (part r).rows.Perm (r.parts.flatMap fun s ↦ (part s).rows) :=
    (hpart r).symm.trans ((t.rows_meeting_perm x r y).trans
      (List.Perm.flatMap (.refl _) fun s _ ↦ hpart s))
  have hthree : t.rows.Perm ((part .lt).rows ++ (part .eq).rows ++ (part .gt).rows) := by
    simpa using (rows_perm_meeting ht hx hy).trans
      (List.Perm.flatMap (.refl _) fun s _ ↦ hpart s)
  refine ⟨hthree.nodup_iff.1 ht.nodup_rows, hthree, ?_, ?_, ?_⟩
  · simpa [Relation.parts] using hparts .le
  · simpa [Relation.parts] using hparts .ne
  · simpa [Relation.parts] using hparts .ge

end Table

namespace Query

/-- The query with a comparison added at a place among its comparisons, or after them. -/
def adding (q : Query) (k : Nat) (c : Comparison) : Query :=
  { q with comparisons := q.comparisons.take k ++ c :: q.comparisons.drop k }

variable {q : Query} {k : Nat} {c : Comparison} {tables : List Table} {t : Table}

/-- The comparisons are those there were and the one that is added. -/
theorem mem_comparisons_adding {c' : Comparison} :
    c' ∈ (q.adding k c).comparisons ↔ c' = c ∨ c' ∈ q.comparisons := by
  have hsplit : c' ∈ q.comparisons ↔ c' ∈ q.comparisons.take k ∨ c' ∈ q.comparisons.drop k := by
    rw [← List.mem_append, List.take_append_drop]
  rw [adding, List.mem_append, List.mem_cons, hsplit]
  exact or_left_comm

/-- **The answers with a comparison more are those answers for which it holds**, if it reads titles
that are asked for: an answer has under them the values of the rows that it is made of. -/
theorem makes_adding_iff (htitles : t.titles = q.titles tables)
    (hreads : ∀ title ∈ c.reads, title ∈ t.titles) {row : Row} :
    (q.adding k c).Makes tables row ↔ q.Makes tables row ∧ c.Holds (t.read row) := by
  have hread {sources : List Row}
      (hvalues : row.values.map some = (q.titles tables).map (readFrom (tables.zip sources))) :
      c.Holds (t.read row) ↔ c.Holds (readFrom (tables.zip sources)) :=
    Comparison.holds_congr fun title htitle ↦
      Table.read_of_map_some (htitles ▸ hvalues) (hreads title htitle)
  constructor
  · rintro ⟨sources, htogether, hholds, hvalues⟩
    refine ⟨⟨sources, htogether, fun c' hc' ↦ ?_, hvalues⟩, (hread hvalues).2 ?_⟩
    · exact hholds c' (mem_comparisons_adding.2 (.inr hc'))
    · exact hholds c (mem_comparisons_adding.2 (.inl rfl))
  · rintro ⟨⟨sources, htogether, hholds, hvalues⟩, hc⟩
    refine ⟨sources, htogether, fun c' hc' ↦ ?_, hvalues⟩
    rcases mem_comparisons_adding.1 hc' with rfl | hc'
    · exact (hread hvalues).1 hc
    · exact hholds c' hc'

end Query

namespace Database

variable {db : Database} {passes : Passes} {q : Query} {t : Table}

/-- **Adding a comparison to a query filters its result**, wherever it is added, if no value holds a
comma and the comparison reads titles of the result. -/
theorem select_adding (hdb : db.WellFormed) (hplain : db.Plain) (hq : db.select passes q = .ok t)
    {c : Comparison} (hreads : ∀ title ∈ c.reads, title ∈ t.titles) (passes' : Passes) (k : Nat) :
    ∃ t', db.select passes' (q.adding k c) = .ok t' ∧ t'.Reordered (t.meeting c) := by
  obtain ⟨tables, hnames, hlength, hresolve⟩ := exists_tables_of_select hq
  obtain ⟨_, candidates, hselect, hdecides, hfrom⟩ :=
    hdb.exists_decides hnames hlength hresolve passes
  have hresult := hdecides.result (hplain.of_mem hnames hfrom) (hselect.symm.trans hq)
  have ht : t.WellFormed := wellFormed_of_select hq
  have hresolve' : ∀ c' ∈ (q.adding k c).comparisons, ∃ condition, c'.resolve tables =
      .ok condition := by
    intro c' hc'
    rcases Query.mem_comparisons_adding.1 hc' with rfl | hc'
    · exact Comparison.exists_resolve fun title htitle ↦ hresult.resolve title (hreads title htitle)
    · exact hresolve c' hc'
  obtain ⟨_, candidates', hselect', hdecides', hfrom'⟩ :=
    hdb.exists_decides (q := q.adding k c) hnames hlength hresolve' passes'
  have htitles : (q.adding k c).titles tables = t.titles := hresult.titles.symm
  obtain ⟨t', ht'⟩ := hdecides'.exists_collect (htitles ▸ ht.titles_ne_nil)
    (htitles ▸ ht.nodup_titles) (htitles ▸ hresult.resolve)
  have hresult' := hdecides'.result (hplain.of_mem hnames hfrom') ht'
  refine ⟨t', hselect'.trans ht', hresult'.titles.trans htitles, ?_⟩
  refine (List.perm_ext_iff_of_nodup (wellFormed_of_select (hselect'.trans ht')).nodup_rows
    (ht.nodup_rows.filter _)).2 fun row ↦ ?_
  rw [hresult'.mem_rows_iff, Query.makes_adding_iff hresult.titles hreads, List.mem_filter,
    hresult.mem_rows_iff, decide_eq_true_iff]

/-- One of the tables of these names has a column with the title. -/
def HasColumn (db : Database) (names : List String) (title : String) : Prop :=
  ∃ name ∈ names, ∃ A, db.table? name = some A ∧ title ∈ A.titles

/-- The result of a query for all columns has the columns of the tables. -/
theorem HasColumn.mem_titles (hdb : db.WellFormed) (hq : db.select passes q = .ok t)
    (hall : q.selection = .all) {title : String} (h : db.HasColumn q.tables title) :
    title ∈ t.titles := by
  obtain ⟨tables, hnames, hlength, htitles, -⟩ := answers_of_select hdb hq
  obtain ⟨name, hname, A, hA, htitle⟩ := h
  have hmem : A ∈ tables := by
    have hsome : some A ∈ tables.map some := hnames ▸ hA ▸ List.mem_map_of_mem hname
    simpa using hsome
  rw [htitles, Query.titles, hall]
  obtain ⟨B, rfl⟩ | ⟨B, C, rfl⟩ : (∃ B, tables = [B]) ∨ ∃ B C, tables = [B, C] :=
    hlength.imp List.length_eq_one_iff.1 List.length_eq_two.1
  · rwa [List.mem_singleton.1 hmem] at htitle
  · refine Table.mem_starTitles_iff.2 ?_
    rcases List.mem_pair.1 hmem with rfl | rfl
    · exact .inl htitle
    · exact .inr htitle

/-- **The comparisons of one column with one operand divide a result.** If no value holds a comma
and a query for all columns succeeds, it also succeeds with a comparison of columns of its tables
added, and keeps the rows for which that holds. The results with `<`, `=` and `>` have its rows
between them, and none twice; those with `<=`, `!=` and `>=` have the rows of two of these each. Two
columns may be compared the other way round. -/
theorem select_divided (hdb : db.WellFormed) (hplain : db.Plain) (hq : db.select passes q = .ok t)
    (hall : q.selection = .all) {x : String} {y : Operand} (hx : db.HasColumn q.tables x)
    (hy : ∀ title, y = .column title → db.HasColumn q.tables title) :
    (∀ r k passes', ∃ part, db.select passes' (q.adding k ⟨x, r, y⟩) = .ok part ∧
      part.Reordered (t.meeting ⟨x, r, y⟩)) ∧
    (∀ part : Relation → Table,
      (∀ r, ∃ k passes', db.select passes' (q.adding k ⟨x, r, y⟩) = .ok (part r)) →
        t.Divided part) ∧
    ∀ title, y = .column title → ∀ r k k' passes' passes'', ∃ part part',
      db.select passes' (q.adding k ⟨x, r, .column title⟩) = .ok part ∧
      db.select passes'' (q.adding k' ⟨title, r.mirrored, .column x⟩) = .ok part' ∧
      part.Reordered part' := by
  have hxt : x ∈ t.titles := hx.mem_titles hdb hq hall
  have hyt : ∀ title, y = .column title → title ∈ t.titles :=
    fun title htitle ↦ (hy title htitle).mem_titles hdb hq hall
  have hadding (r : Relation) (k : Nat) (passes' : Passes) :
      ∃ part, db.select passes' (q.adding k ⟨x, r, y⟩) = .ok part ∧
        part.Reordered (t.meeting ⟨x, r, y⟩) :=
    select_adding hdb hplain hq (Comparison.forall_reads_iff.2 ⟨hxt, hyt⟩) passes' k
  refine ⟨hadding, fun part hpart ↦ ?_, ?_⟩
  · refine Table.divided_of_meeting (wellFormed_of_select hq) hxt hyt fun r ↦ ?_
    obtain ⟨k, passes', hselect⟩ := hpart r
    obtain ⟨part', hselect', hreordered⟩ := hadding r k passes'
    rw [Except.ok.inj (hselect.symm.trans hselect')]
    exact hreordered.rows.symm
  · rintro title rfl r k k' passes' passes''
    obtain ⟨part, hselect, hreordered⟩ := hadding r k passes'
    have hreads : ∀ title' ∈ (⟨title, r.mirrored, .column x⟩ : Comparison).reads,
        title' ∈ t.titles :=
      Comparison.forall_reads_iff.2 ⟨hyt title rfl, fun _ h ↦ Operand.column.inj h ▸ hxt⟩
    obtain ⟨part', hselect', hreordered'⟩ := select_adding hdb hplain hq hreads passes'' k'
    rw [t.meeting_mirrored] at hreordered'
    exact ⟨part, part', hselect, hselect', hreordered.titles.trans hreordered'.titles.symm,
      hreordered.rows.trans hreordered'.rows.symm⟩

/-- Two tables that share a title, and a column of the first compared with one of the second. -/
theorem select_divided_shared :
    let A : Table := ⟨["x", "y"], [⟨["1", "b"]⟩, ⟨["2", "c"]⟩, ⟨["3", "b"]⟩]⟩
    let B : Table := ⟨["y", "z"], [⟨["b", "2"]⟩, ⟨["c", "2"]⟩]⟩
    let db : Database := ⟨"", [("a", A), ("b", B)]⟩
    let q : Query := ⟨.all, ["a", "b"], [⟨"y", .ne, .literal "d"⟩]⟩
    ∃ (t : Table) (part : Relation → Table), db.select .arrival q = .ok t ∧ t.rows.length = 3 ∧
      (∀ r, db.select .arrival (q.adding 0 ⟨"x", r, .column "z"⟩) = .ok (part r)) ∧
      t.Divided part ∧
      ∃ below, db.select .arrival (q.adding 1 ⟨"z", .gt, .column "x"⟩) = .ok below ∧
        (part .lt).Reordered below := by
  intro A B db q
  have hA : A.WellFormed := ⟨by decide, by decide, by decide, by decide⟩
  have hB : B.WellFormed := ⟨by decide, by decide, by decide, by decide⟩
  have htables : ∀ entry ∈ db.tables, entry.2 = A ∨ entry.2 = B := by decide
  have hdb : db.WellFormed := by
    intro entry hentry
    rcases htables entry hentry with h | h <;> rw [h] <;> assumption
  have hplain : db.Plain := by
    intro name t ht
    have hcommas : ∀ t ∈ [A, B], ∀ r ∈ t.rows, r.Plain := by unfold Row.Plain; decide
    exact hcommas t (by simpa using htables _ (Keyed.mem_of_get? ht))
  have hselect : db.select .arrival q =
      .ok ⟨["x", "y", "z"], [⟨["1", "b", "2"]⟩, ⟨["2", "c", "2"]⟩, ⟨["3", "b", "2"]⟩]⟩ := by
    decide +kernel
  have hx : db.HasColumn q.tables "x" := ⟨"a", by decide, A, rfl, by decide⟩
  have hz : ∀ title, Operand.column "z" = .column title → db.HasColumn q.tables title := by
    rintro _ ⟨⟩
    exact ⟨"b", by decide, B, rfl, by decide⟩
  obtain ⟨hsome, hdivided, hmirrored⟩ := select_divided hdb hplain hselect rfl hx hz
  choose part hpart _ using fun r ↦ hsome r 0 .arrival
  have hparts : Table.Divided _ part := hdivided part fun r ↦ ⟨0, .arrival, hpart r⟩
  obtain ⟨below, below', hbelow, hbelow', hreordered⟩ := hmirrored "z" rfl .lt 0 1 .arrival .arrival
  rw [← Except.ok.inj ((hpart .lt).symm.trans hbelow)] at hreordered
  exact ⟨_, part, hselect, rfl, hpart, hparts, below', hbelow', hreordered⟩

end Database

end Tabular
