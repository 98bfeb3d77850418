import Tabular.Proofs.Query.Answer
import Tabular.Proofs.Statement.Refusal
import Tabular.Proofs.Token.Halted

/-!
# What statements are refused for

A text that is carried out is refused because it is not made of lexemes (`Token.ofText_eq_error`),
because its tokens are no statement, or because the statement asks for what the database cannot do.
In the last case the error is not about the form of the statement, unless a query lists no table or
too many, and the database is what it was (`Database.run_eq_error`). Over a well-formed database no
value is missed.

Most refusals are of a fixed kind wherever they come from, so they are told apart by
`Error.malformation?`: what is wrong with the form of a statement, for the errors that are about
form. Operations on tables and files know nothing of statements, and each of the lemmas
`malformation?_of_new` to `malformation?_of_collect` says so of one of them, in the order in which
they call each other.

On the other side are the faults of texts, of which there are two groups: those that the tokenizer
finds (`Malformation.Lexical`) and those that the reading of tokens finds
(`Malformation.InStatement`).
-/

namespace Tabular

/-- What can be wrong with a text that is not made of lexemes. -/
def Malformation.Lexical : Malformation → Prop
  | unsupported _ | loneBang | commaInLiteral | unterminatedLiteral => True
  | _ => False

/-- What is wrong with the form of a statement, where an error is about its form. -/
def Error.malformation? : Error → Option Malformation
  | malformed fault => some fault
  | _ => none

/-! ### Texts -/

namespace Token

/-- What a text halts at is one of the four lexical faults. -/
theorem Halts.lexical {text left : List Char} {fault : Malformation} (h : Halts text fault left) :
    fault.Lexical := by
  obtain ⟨front, text', -, -, hfaulty⟩ := h.exists_faulty
  cases hfaulty <;> trivial

/-- **A text that does not read as tokens is refused for its lexemes.** -/
theorem ofText_eq_error {s : String} {e : Failure} (h : ofText s = .error e) :
    ∃ fault, e = .malformed fault ∧ fault.Lexical := by
  simp only [ofText, Scanner.scan] at h
  split at h
  · cases h
  · next hscan =>
    cases h
    obtain ⟨fault, rfl, hhalts⟩ := scan_eq_error_iff.1 hscan
    exact ⟨fault, rfl, hhalts.lexical⟩

end Token

/-! ### Tables -/

theorem Column.malformation?_of_resolve {tables : List Table} {title : String} {e : Error}
    (h : resolve tables title = .error e) : e.malformation? = none := by
  unfold resolve at h
  split at h <;> cases h
  rfl

theorem Comparison.malformation?_of_resolve {tables : List Table} {c : Comparison} {e : Error}
    (h : c.resolve tables = .error e) : e.malformation? = none := by
  rcases bind_eq_error_iff.1 h with h | ⟨column, -, h⟩
  · exact Column.malformation?_of_resolve h
  rcases bind_eq_error_iff.1 h with h | ⟨target, -, h⟩
  · unfold Operand.resolve at h
    split at h
    · split at h <;> cases h
      next hresolve => exact Column.malformation?_of_resolve hresolve
    · cases h
  · cases h

namespace Table

/-- Titles are refused for what they are, not for how they were written. -/
theorem malformation?_of_new {titles : List String} {e : Error} (h : new titles = .error e) :
    e.malformation? = none := by
  unfold new at h
  split at h
  · cases h
    rfl
  · split at h <;> cases h
    rfl

theorem malformation?_of_add {t : Table} {row : Row} {e : Error} (h : t.add row = .error e) :
    e.malformation? = none := by
  unfold add at h
  split at h
  · cases h
    rfl
  · split at h <;> cases h

theorem malformation?_of_addAll {t : Table} {rows : List Row} {e : Error}
    (h : t.addAll rows = .error e) :
    e.malformation? = none := by
  induction rows generalizing t with
  | nil => cases h
  | cons row rows ih =>
    rw [addAll] at h
    split at h
    · exact ih h
    · next hadd =>
      cases h
      exact malformation?_of_add hadd

theorem malformation?_of_addLines {t : Table} {name : String} {lines : List (Option String)}
    {e : Error} (h : t.addLines name lines = .error e) : e.malformation? = none := by
  induction lines generalizing t with
  | nil => cases h
  | cons line lines ih =>
    cases line with
    | none =>
      cases h
      rfl
    | some line =>
      rw [addLines] at h
      split at h
      · exact ih h
      · next hadd =>
        cases h
        exact malformation?_of_add hadd

/-- Nothing that a file holds, and nothing that the disk answers, is about the form of a statement.
-/
theorem malformation?_of_load {dir name : String} {e : Error}
    (h : (load dir name).MayGive (.error e)) :
    e.malformation? = none := by
  obtain ⟨answer, h⟩ := h
  cases answer with
  | error fault => cases fault <;> cases h <;> rfl
  | ok content =>
    replace h : decode name content = .error e := h.symm
    unfold decode ofLines at h
    split at h
    · cases h
      rfl
    · cases h
      rfl
    · split at h
      · exact malformation?_of_addLines h
      · next hnew =>
        cases h
        exact malformation?_of_new hnew

/-- The result of a query is refused for its titles, for a column or for a row. -/
theorem malformation?_of_collect {titles : List String} {tables : List Table}
    {conditions : List Condition} {candidates : List (List Row)} {e : Error}
    (h : collect titles tables conditions candidates = .error (.error e)) :
    e.malformation? = none := by
  rcases bind_eq_error_iff.1 h with h | ⟨result, -, h⟩
  · exact malformation?_of_new (Failure.ofExcept_eq_error_error_iff.1 h)
  rcases bind_eq_error_iff.1 h with h | ⟨columns, -, h⟩
  · obtain ⟨title, -, htitle⟩ :=
      exists_mem_of_mapM_eq_error (Failure.ofExcept_eq_error_error_iff.1 h)
    exact Column.malformation?_of_resolve htitle
  rcases bind_eq_error_iff.1 h with h | ⟨rows, -, h⟩
  · unfold Failure.ofOption at h
    split at h <;> cases h
  · exact malformation?_of_addAll (Failure.ofExcept_eq_error_error_iff.1 h)

end Table

/-! ### Databases -/

namespace Database

variable {db db' : Database} {passes : Passes}

theorem malformation?_of_table {name : String} {e : Error} (h : db.table name = .error e) :
    e.malformation? = none := by
  unfold table at h
  split at h <;> cases h
  rfl

/-- **The form of a query is refused for the number of its tables only.** -/
theorem malformation?_of_select {q : Query} {e : Error}
    (h : db.select passes q = .error (.error e)) :
    ∀ fault ∈ e.malformation?, fault = .tableCount := by
  have hnone (hform : e.malformation? = none) : ∀ fault ∈ e.malformation?, fault = .tableCount := by
    simp [hform]
  have hselected := selected db passes q
  rw [h] at hselected
  cases hselected with
  | one hnames hfound h => exact hnone (Table.malformation?_of_collect h)
  | two hnames hfound h => exact hnone (Table.malformation?_of_collect h)
  | unknownTable h => exact hnone (malformation?_of_table h)
  | unknownColumn h => exact hnone (Comparison.malformation?_of_resolve h)
  | tableCount =>
    rintro fault ⟨rfl⟩
    rfl

/-- **A refused statement changes nothing**, and what it is refused for is a query's refusal or not
about its form. -/
theorem run_eq_error {s : Statement} {f : Failure} (h : (db.run passes s).MayGive (.error f, db')) :
    db' = db ∧
      ((∃ q, db.select passes q = .error f) ∨ ∃ e, f = .error e ∧ e.malformation? = none) := by
  cases ran_of_run h with
  | @notCreated name contents _ hmake =>
    cases contents with
    | columns titles =>
      obtain ⟨e, hnew, rfl⟩ := Failure.ofExcept_eq_error_iff.1 hmake
      exact ⟨rfl, .inr ⟨e, rfl, Table.malformation?_of_new hnew⟩⟩
    | query q => exact ⟨rfl, .inl ⟨q, hmake⟩⟩
  | notLoaded hload => exact ⟨rfl, .inr ⟨_, rfl, Table.malformation?_of_load hload⟩⟩
  | notStored ht => exact ⟨rfl, .inr ⟨_, rfl, rfl⟩⟩
  | notInserted ht hadd => exact ⟨rfl, .inr ⟨_, rfl, Table.malformation?_of_add hadd⟩⟩
  | notAnswered hselect => exact ⟨rfl, .inl ⟨_, hselect⟩⟩
  | unknownTable htable hs => exact ⟨rfl, .inr ⟨_, rfl, malformation?_of_table htable⟩⟩

/-- What a text is refused for: its lexemes, its tokens, or what it asks for. -/
theorem execute_eq_error {text : String} {f : Failure}
    (h : (db.execute passes text).MayGive (.error f, db')) :
    db' = db ∧ ((∃ fault, f = .malformed fault ∧ fault.Lexical) ∨
      (∃ ts, Token.ofText text = .ok ts ∧ Statement.ofTokens ts = .error f) ∨
      (∃ q, db.select passes q = .error f) ∨ ∃ e, f = .error e ∧ e.malformation? = none) := by
  rw [Database.execute] at h
  split at h
  · obtain ⟨hdb, hrefused⟩ := run_eq_error h
    exact ⟨hdb, .inr (.inr hrefused)⟩
  · next f' hread =>
    cases h
    refine ⟨rfl, ?_⟩
    rcases bind_eq_error_iff.1 hread with hread | ⟨ts, hts, hread⟩
    · exact .inl (Token.ofText_eq_error hread)
    · exact .inr (.inl ⟨ts, hts, hread⟩)

/-- **What texts are refused for in form** is in their lexemes, is in one statement, comes after its
semicolon, or is the number of a query's tables. -/
theorem malformation_of_execute {text : String} {fault : Malformation}
    (h : (db.execute passes text).MayGive (.error (.malformed fault), db')) :
    fault.Lexical ∨ fault.InStatement ∨ fault = .tableCount ∨
      ∃ ts found front after, Token.ofText text = .ok ts ∧ fault = .trailing found ∧
        ts = front ++ .semicolon :: after ∧ after.head? ≠ some .eof := by
  obtain ⟨-, ⟨fault', heq, hfault⟩ | ⟨ts, hts, hread⟩ | ⟨q, hselect⟩ | ⟨e, heq, he⟩⟩ :=
    execute_eq_error h
  · cases heq
    exact .inl hfault
  · have hne : ts ≠ [] := by
      obtain ⟨us, rfl, -⟩ := Token.ofText_eq_ok_iff.1 hts
      simp
    obtain ⟨fault', heq, hfault | ⟨found, front, after, rfl, hafter⟩⟩ :=
      Statement.ofTokens_eq_error hne hread
    · cases heq
      exact .inr (.inl hfault)
    · cases heq
      exact .inr (.inr (.inr ⟨ts, found, front, after, hts, rfl, hafter⟩))
  · exact .inr (.inr (.inl (malformation?_of_select hselect fault rfl)))
  · cases heq
    cases he

/-- **Over a well-formed database no text misses a value.** -/
theorem WellFormed.execute_ne_outOfRange {text : String} (hdb : db.WellFormed) :
    ¬ (db.execute passes text).MayGive (.error .outOfRange, db') := by
  intro h
  -- a text is refused in four ways, and only a query could miss a value
  obtain ⟨-, ⟨fault, heq, -⟩ | ⟨ts, hts, hread⟩ | ⟨q, hselect⟩ | ⟨e, heq, -⟩⟩ := execute_eq_error h
  · cases heq
  · obtain ⟨us, rfl, -⟩ := Token.ofText_eq_ok_iff.1 hts
    obtain ⟨fault, heq, -⟩ := Statement.ofTokens_eq_error (by simp) hread
    cases heq
  · exact hdb.select_ne_outOfRange hselect
  · cases heq

end Database

end Tabular
