import Tabular.Proofs.Query.Nested
import Tabular.Proofs.Query.Swapped

/-!
# What queries are refused for

Many things can be wrong with one query: with the names of its tables and their number, with its
comparisons, with the titles that it asks for. `Query.faults` lists all that is wrong, in the order
of a query's parts; it looks nothing up in turn and stops nowhere. A query over well-formed tables
is refused exactly if the list is not empty, and the error is the first of it
(`Database.select_eq_error_iff`).

Each step of a query has its part of the list (`Reports`), and steps that are taken one after the
other have their parts put together (`Reports.bind`). Looking through the rows has no part: once
everything is found, nothing can go wrong any more.

That the first fault is reported is a statement about order, and the list has its order from the
text of a query and not from what is done with it. The two meet step by step. `Reports` holds of a
step and of a list with the fault that the step would stop at in front, and where the step succeeds
the list is empty; what stands behind the first fault is never looked at and may be anything.

A query that names three tables is refused for their number, and what the list says of its titles
behind that does not matter.

## The parts of the list

The parts follow each other as a query is carried out: the names of tables that are not there, the
number of tables, the titles of comparisons that no table has, and then what is wrong with the
titles that are asked for (`titleFaults`): that there are none, that one is repeated, that one is
missing. For a query of all columns the last part is empty in a well-formed database
(`titleFaults_allTitles`).
-/

namespace Tabular

/-! ### Faults of steps -/

/-- A computation fails with the first of these faults, and succeeds if there are none. -/
inductive Reports {ε α : Type} : Except ε α → List ε → Prop
  | ok (a : α) : Reports (.ok a) []
  | error (e : ε) (more : List ε) : Reports (.error e) (e :: more)

namespace Reports

variable {ε α β : Type} {x : Except ε α} {faults more : List ε}

/-- **Steps one after the other have the faults of the first and then those of the second.** -/
theorem bind {f : α → Except ε β} (hx : Reports x faults)
    (hf : ∀ a, x = .ok a → Reports (f a) more) : Reports (x >>= f) (faults ++ more) := by
  cases hx with
  | ok a => exact hf a rfl
  | error e rest => exact .error e (rest ++ more)

/-- Many steps have the faults of each, in their order. -/
theorem mapM {f : α → Except ε β} {faultsOf : α → List ε} (h : ∀ a, Reports (f a) (faultsOf a))
    (as : List α) : Reports (as.mapM f) (as.flatMap faultsOf) := by
  induction as with
  | nil => exact .ok []
  | cons a as ih =>
    rw [List.mapM_cons, List.flatMap_cons, ← List.append_nil (as.flatMap faultsOf)]
    exact (h a).bind fun b _ ↦ ih.bind fun bs _ ↦ .ok (b :: bs)

/-- Faults stay what they are where values could be missed as well. -/
theorem ofExcept {x : Except Error α} {faults : List Error} (h : Reports x faults) :
    Reports (Failure.ofExcept x) (faults.map .error) := by
  cases h with
  | ok a => exact .ok a
  | error e more => exact .error (Failure.error e) (more.map .error)

/-- The first of the faults is the one that is reported. -/
theorem eq_error_iff (h : Reports x faults) (e : ε) : x = .error e ↔ faults.head? = some e := by
  cases h with
  | ok a => simp
  | error e' more => simp [eq_comm]

/-- A computation succeeds exactly if there is no fault to report. -/
theorem exists_ok_iff (h : Reports x faults) : (∃ a, x = .ok a) ↔ faults = [] := by
  cases h with
  | ok a => simp
  | error e more => simp

end Reports

/-! ### Faults of titles -/

/-- The texts of a list that stand in it before, each as often as that is so. -/
def repetitions (texts : List String) : List String :=
  (texts.zipIdx.filter fun (text, k) ↦ text ∈ texts.take k).map Prod.fst

/-- The first of them is the one that is found from the front. -/
theorem head?_repetitions (texts : List String) :
    (repetitions texts).head? = firstRepeated [] texts := by
  -- what was seen are the texts up to some place
  suffices ∀ (front rest seen : List String), (∀ text, text ∈ seen ↔ text ∈ front) →
      (((rest.zipIdx front.length).filter fun (text, k) ↦ text ∈ (front ++ rest).take k).map
        Prod.fst).head? = firstRepeated seen rest from
    this [] texts [] (by simp)
  intro front rest
  induction rest generalizing front with
  | nil => intros; rfl
  | cons text rest ih =>
    intro seen hseen
    have htake : (front ++ text :: rest).take front.length = front := List.take_left
    have hnext := ih (front ++ [text]) (text :: seen) (by simp [hseen, or_comm])
    rw [List.length_append, List.length_singleton, List.append_assoc,
      List.singleton_append] at hnext
    rw [List.zipIdx_cons, firstRepeated]
    by_cases hmem : text ∈ seen
    · simp [htake, hmem, (hseen text).1 hmem]
    · have hfront : text ∉ front := mt (hseen text).2 hmem
      rw [if_neg hmem, List.filter_cons_of_neg (by simpa [htake] using hfront), hnext]

/-- An error for each title that none of the tables has. -/
def missing (tables : List Table) (titles : List String) : List Error :=
  (titles.filter fun title ↦ ∀ t ∈ tables, title ∉ t.titles).map .columnNotFound

theorem missing_eq_nil_iff {tables : List Table} {titles : List String} :
    missing tables titles = [] ↔ ∀ title ∈ titles, ∃ t ∈ tables, title ∈ t.titles := by
  simp [missing]

theorem missing_append (tables : List Table) (titles titles' : List String) :
    missing tables (titles ++ titles') = missing tables titles ++ missing tables titles' := by
  simp [missing]

theorem missing_flatMap {α : Type} (tables : List Table) (as : List α) (f : α → List String) :
    missing tables (as.flatMap f) = as.flatMap fun a ↦ missing tables (f a) := by
  induction as with
  | nil => rfl
  | cons a as ih => rw [List.flatMap_cons, List.flatMap_cons, missing_append, ih]

namespace Column

variable {tables : List Table}

/-- A title has no place if no table has it. -/
theorem binding?_eq_none_iff_forall (hlength : tables.length = 1 ∨ tables.length = 2)
    {title : String} : binding? title tables = none ↔ ∀ t ∈ tables, title ∉ t.titles := by
  obtain ⟨A, rfl⟩ | ⟨A, B, rfl⟩ : (∃ A, tables = [A]) ∨ ∃ A B, tables = [A, B] :=
    hlength.imp List.length_eq_one_iff.1 List.length_eq_two.1
  · rw [binding?, Option.map_eq_none_iff, Table.slot?_eq_none_iff, List.forall_mem_singleton]
  · simp [binding?_eq_none_iff]

/-- Looking a title up fails if it is missing. -/
theorem reports_resolve (hlength : tables.length = 1 ∨ tables.length = 2) (title : String) :
    Reports (resolve tables title) (missing tables [title]) := by
  by_cases h : ∀ t ∈ tables, title ∉ t.titles
  · have hmissed := resolve_eq_error_iff.2 ⟨(binding?_eq_none_iff_forall hlength).2 h, rfl⟩
    rw [hmissed, missing, List.filter_cons_of_pos (by simpa using h)]
    exact .error _ []
  · obtain ⟨b, hb⟩ :=
      Option.ne_none_iff_exists'.1 (mt (binding?_eq_none_iff_forall hlength).1 h)
    have hfound : resolve tables title = .ok ⟨title, b⟩ := resolve_eq_ok_iff.2 ⟨hb, rfl⟩
    rw [hfound, missing, List.filter_cons_of_neg (by simpa using h)]
    exact .ok _

/-- Looking many titles up fails at the first that is missing. -/
theorem reports_mapM_resolve (hlength : tables.length = 1 ∨ tables.length = 2)
    (titles : List String) : Reports (titles.mapM (resolve tables)) (missing tables titles) := by
  have hall := Reports.mapM (reports_resolve hlength) titles
  rwa [← missing_flatMap, List.flatMap_singleton'] at hall

end Column

/-- The column of a comparison is looked up first, and then a column that it is compared with. -/
theorem Comparison.reports_resolve {tables : List Table}
    (hlength : tables.length = 1 ∨ tables.length = 2) (c : Comparison) :
    Reports (c.resolve tables) (missing tables c.reads) := by
  obtain ⟨title, relation, operand⟩ := c
  have hcolumn := Column.reports_resolve hlength title
  cases operand with
  | literal value =>
    rw [reads, ← List.append_nil (missing _ _)]
    exact hcolumn.bind fun column _ ↦ .ok _
  | column title' =>
    have hcolumn' := Column.reports_resolve hlength title'
    have htarget : Reports ((Operand.column title').resolve tables) (missing tables [title']) := by
      rw [Operand.resolve]
      generalize Column.resolve tables title' = found, missing tables [title'] = faults
        at hcolumn'
      cases hcolumn' with
      | ok column' => exact .ok _
      | error e more => exact .error e more
    show Reports _ (missing tables ([title] ++ [title']))
    rw [missing_append, ← List.append_nil (missing tables [title'])]
    exact hcolumn.bind fun column _ ↦ htarget.bind fun target _ ↦ .ok _

/-! ### Faults of queries -/

/-- What is wrong with the titles that a query asks for. -/
def titleFaults (tables : List Table) (titles : List String) : List Error :=
  (if titles = [] then [.noColumns] else []) ++ (repetitions titles).map .duplicateColumn ++
    missing tables titles

/-- Nothing is wrong with titles that are distinct and found, if there is one. -/
theorem titleFaults_eq_nil_iff {tables : List Table} {titles : List String} :
    titleFaults tables titles = [] ↔
      titles ≠ [] ∧ titles.Nodup ∧ ∀ title ∈ titles, ∃ t ∈ tables, title ∈ t.titles := by
  have hnodup : repetitions titles = [] ↔ titles.Nodup := by
    rw [← List.head?_eq_none_iff, head?_repetitions, firstRepeated_eq_none_iff]
    simp
  simp [titleFaults, missing_eq_nil_iff, hnodup]

/-- **Asking for all titles is no fault.** -/
theorem titleFaults_allTitles {tables : List Table}
    (hlength : tables.length = 1 ∨ tables.length = 2) (htables : ∀ t ∈ tables, t.WellFormed) :
    titleFaults tables (allTitles tables) = [] := by
  rw [titleFaults_eq_nil_iff]
  obtain ⟨A, rfl⟩ | ⟨A, B, rfl⟩ : (∃ A, tables = [A]) ∨ ∃ A B, tables = [A, B] :=
    hlength.imp List.length_eq_one_iff.1 List.length_eq_two.1
  · have hA := htables A (by simp)
    exact ⟨hA.titles_ne_nil, hA.nodup_titles, fun title htitle ↦ ⟨A, by simp, htitle⟩⟩
  · have hA := htables A (by simp)
    have hB := htables B (by simp)
    refine ⟨fun hnil ↦ ?_, Table.nodup_starTitles hA.nodup_titles hB.nodup_titles,
      fun title htitle ↦ ?_⟩
    · exact hA.titles_ne_nil (List.append_eq_nil_iff.1 hnil).1
    · rcases Table.mem_starTitles_iff.1 htitle with htitle | htitle
      · exact ⟨A, by simp, htitle⟩
      · exact ⟨B, by simp, htitle⟩

namespace Query

/-- What is wrong with the tables that a query names. -/
def tableFaults (db : Database) (q : Query) : List Error :=
  (q.tables.filter fun name ↦ db.table? name = none).map .tableNotFound ++
    if q.tables.length = 1 ∨ q.tables.length = 2 then [] else [.malformed .tableCount]

/-- The tables that a query names, those that there are. -/
def named (db : Database) (q : Query) : List Table :=
  q.tables.filterMap db.table?

/-- **All that is wrong with a query**: with its tables, with its comparisons, and with the titles
that it asks for. -/
def faults (db : Database) (q : Query) : List Error :=
  q.tableFaults db ++ missing (q.named db) (q.comparisons.flatMap Comparison.reads) ++
    titleFaults (q.named db) (q.titles (q.named db))

end Query

/-- If no name is missing, there is a table for each. -/
theorem Query.named_eq {db : Database} {q : Query} {tables : List Table}
    (h : q.tables.map db.table? = tables.map some) : q.named db = tables := by
  rw [named, ← Function.id_comp db.table?, ← List.filterMap_map, h, List.filterMap_map]
  exact List.filterMap_some

namespace Table

/-- Making a table fails for no titles, or for the first that is repeated. -/
theorem reports_new (titles : List String) :
    Reports (new titles) ((if titles = [] then [.noColumns] else []) ++
      (repetitions titles).map .duplicateColumn) := by
  have hhead := head?_repetitions titles
  rw [new]
  split
  · exact .error _ _
  · rw [← hhead]
    cases repetitions titles with
    | nil => exact .ok _
    | cons title more => exact .error _ _

/-- **Collecting is refused for its titles only.** -/
theorem reports_collect {tables : List Table} {comparisons : List Comparison}
    {conditions : List Condition} {candidates : List (List Row)}
    (hlength : tables.length = 1 ∨ tables.length = 2)
    (hdecides : Decides tables comparisons conditions candidates) (titles : List String) :
    Reports (collect titles tables conditions candidates)
      ((titleFaults tables titles).map .error) := by
  rw [titleFaults, List.map_append, ← List.append_nil (List.map _ (missing tables titles))]
  refine (reports_new titles).ofExcept.bind fun result hresult ↦
    (Column.reports_mapM_resolve hlength titles).ofExcept.bind fun columns hcolumns ↦ ?_
  -- what is left to do succeeds, since all of it does
  rw [Failure.ofExcept_eq_ok_iff] at hresult hcolumns
  obtain ⟨hne, hnodup, -⟩ := new_eq_ok_iff.1 hresult
  have hfound : ∀ title ∈ titles, ∃ c, Column.resolve tables title = .ok c := by
    intro title htitle
    obtain ⟨c, -, hc⟩ := exists_mem_of_forall₂ (mapM_eq_ok_iff.1 hcolumns) htitle
    exact ⟨c, hc⟩
  obtain ⟨t, ht⟩ := hdecides.exists_collect hne hnodup hfound
  rw [collect, hresult, hcolumns] at ht
  exact (show _ = Except.ok t from ht) ▸ .ok t

end Table

namespace Database

variable {db : Database}

/-- Looking tables up fails at the first name that is missing. -/
theorem reports_mapM_table (db : Database) (names : List String) :
    Reports (names.mapM db.table)
      ((names.filter fun name ↦ db.table? name = none).map .tableNotFound) := by
  have hone (name : String) : Reports (db.table name)
      (([name].filter fun name ↦ db.table? name = none).map .tableNotFound) := by
    rw [table]
    cases h : db.table? name with
    | none => simpa [h] using Reports.error _ _
    | some t => simpa [h] using Reports.ok t
  have hall := Reports.mapM hone names
  rwa [← List.map_flatMap, ← List.filter_flatMap, List.flatMap_singleton'] at hall

theorem reports_mapM_comparisons {tables : List Table}
    (hlength : tables.length = 1 ∨ tables.length = 2) (comparisons : List Comparison) :
    Reports (comparisons.mapM (·.resolve tables))
      (missing tables (comparisons.flatMap Comparison.reads)) := by
  rw [missing_flatMap]
  exact .mapM (Comparison.reports_resolve hlength) comparisons

/-- **A query over well-formed tables is refused for its faults only.** -/
theorem reports_select (hdb : db.WellFormed) (passes : Passes) (q : Query) :
    Reports (db.select passes q) ((q.faults db).map .error) := by
  rw [select, Query.faults, Query.tableFaults, List.append_assoc, List.append_assoc,
    List.map_append]
  refine (reports_mapM_table db q.tables).ofExcept.bind fun tables htables ↦ ?_
  -- all names are those of tables
  have hnames := mapM_table_eq_ok_iff.1 (Failure.ofExcept_eq_ok_iff.1 htables)
  have hlength : q.tables.length = tables.length := by
    simpa using congrArg List.length hnames
  rw [Query.named_eq hnames, hlength]
  rcases tables with _ | ⟨A, _ | ⟨B, _ | ⟨C, others⟩⟩⟩
  · exact .error _ _
  · have hA : A.WellFormed := hdb.of_map_table? hnames (by simp)
    rw [if_pos (.inl rfl), List.nil_append, List.map_append, ← Query.titles_of_length (.inl rfl)]
    refine (reports_mapM_comparisons (.inl rfl) _).ofExcept.bind fun conditions hconditions ↦ ?_
    have hfound := mapM_eq_ok_iff.1 (Failure.ofExcept_eq_ok_iff.1 hconditions)
    exact Table.reports_collect (.inl rfl) (decides_singles hA passes.left hfound) _
  · have hA : A.WellFormed := hdb.of_map_table? hnames (by simp)
    have hB : B.WellFormed := hdb.of_map_table? hnames (by simp)
    rw [if_pos (.inr rfl), List.nil_append, List.map_append, ← Query.titles_of_length (.inr rfl)]
    refine (reports_mapM_comparisons (.inr rfl) _).ofExcept.bind fun conditions hconditions ↦ ?_
    have hfound := mapM_eq_ok_iff.1 (Failure.ofExcept_eq_ok_iff.1 hconditions)
    exact Table.reports_collect (.inr rfl) (decides_pairs hA hB passes.left passes.right hfound) _
  · rw [if_neg (by simp)]
    exact .error _ _

theorem WellFormed.of_mem_named (hdb : db.WellFormed) {q : Query} {t : Table}
    (ht : t ∈ q.named db) : t.WellFormed := by
  obtain ⟨name, -, hname⟩ := List.mem_filterMap.1 ht
  exact hdb.of_table? hname

/-- **What a query is refused for.** A query over well-formed tables fails exactly if it has a
fault, with the first fault in the order of its parts: a table that is not there, another number of
tables than one or two, a column of a comparison that no table has, no title at all, a title that
stands before, and a title that no table has. Asking for all titles is no fault, and no row is
refused for its width. -/
theorem select_eq_error_iff (hdb : db.WellFormed) (passes : Passes) (q : Query) :
    (∀ f, db.select passes q = .error f ↔ ∃ e, (q.faults db).head? = some e ∧ f = .error e) ∧
    ((∃ t, db.select passes q = .ok t) ↔ q.faults db = []) ∧
    (q.selection = .all → q.tableFaults db = [] →
      titleFaults (q.named db) (q.titles (q.named db)) = []) ∧
    ∀ expected found, db.select passes q ≠ .error (.error (.rowWidth expected found)) := by
  have hselect := reports_select hdb passes q
  have herror (f : Failure) : db.select passes q = .error f ↔
      ∃ e, (q.faults db).head? = some e ∧ f = .error e := by
    rw [hselect.eq_error_iff, List.head?_map, Option.map_eq_some_iff]
    simp only [eq_comm]
  refine ⟨herror, ?_, fun hall hnone ↦ ?_, fun expected found h ↦ ?_⟩
  · rw [hselect.exists_ok_iff, List.map_eq_nil_iff]
  · obtain ⟨hfound, hcount⟩ := List.append_eq_nil_iff.1 hnone
    obtain ⟨tables, htables⟩ := (reports_mapM_table db q.tables).exists_ok_iff.2 hfound
    have hnames := mapM_table_eq_ok_iff.1 htables
    have hlength : (q.named db).length = q.tables.length := by
      rw [Query.named_eq hnames]
      simpa using (congrArg List.length hnames).symm
    have htitles : q.titles (q.named db) = allTitles (q.named db) := by
      rw [Query.titles, hall]
    rw [htitles]
    refine titleFaults_allTitles ?_ fun t ht ↦ hdb.of_mem_named ht
    rw [hlength]
    by_contra hnot
    rw [if_neg hnot] at hcount
    cases hcount
  · obtain ⟨e, hhead, he⟩ := (herror _).1 h
    cases he
    have hmem := List.mem_of_mem_head? hhead
    simp [Query.faults, Query.tableFaults, titleFaults, missing] at hmem

/-- Two tables, and a query with a fault in each of its parts but the first: the column that is
compared with is reported, and without the comparison the title that is repeated. -/
theorem select_eq_error_compared :
    let db : Database := ⟨"", [("t", ⟨["a", "b"], [⟨["x", "y"]⟩]⟩), ("u", ⟨["b", "c"], []⟩)]⟩
    let comparisons : List Comparison := [⟨"a", .lt, .column "d"⟩, ⟨"e", .eq, .literal "x"⟩]
    let q : List Comparison → Query := fun cs ↦ ⟨.columns ["f", "c", "c", "a", "a"], ["t", "u"], cs⟩
    db.WellFormed ∧
      db.select .arrival (q comparisons) = .error (.error (.columnNotFound "d")) ∧
      db.select .arrival (q []) = .error (.error (.duplicateColumn "c")) ∧
      ∃ t, db.select .arrival ⟨.all, ["t", "u"], []⟩ = .ok t := by
  intro db comparisons q
  have hdb : db.WellFormed := by
    intro entry hentry
    rcases List.mem_cons.1 hentry with rfl | hentry
    · exact ⟨by decide, by decide, by decide, by decide⟩
    · rw [List.mem_singleton.1 hentry]
      exact ⟨by decide, by decide, by decide, by decide⟩
  refine ⟨hdb, ?_, ?_, ?_⟩
  · exact ((select_eq_error_iff hdb .arrival (q comparisons)).1 _).2 ⟨_, by decide, rfl⟩
  · exact ((select_eq_error_iff hdb .arrival (q [])).1 _).2 ⟨_, by decide, rfl⟩
  · exact (select_eq_error_iff hdb .arrival ⟨.all, ["t", "u"], []⟩).2.1.2 (by decide)

end Database

end Tabular
