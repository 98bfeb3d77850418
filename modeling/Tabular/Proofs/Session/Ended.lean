import Tabular.Proofs.Session.Executed
import Tabular.Proofs.Token.Stepwise

/-!
# How sessions end

A session over a well-formed database never asks for a value where there is none. Each text that it
carries out is read, and refused or carried out, without a miss, and leaves a well-formed database
behind; so a session ends with its script, at an `exit`, or where the script cannot be read
(`Session.run_ends`). The same holds of a script that is read from a file while it is carried out.

Four reasons make it so, each for itself: no character is asked for beyond the end of a text, a
statement is read from tokens of which the last is never moved past, rows are as wide as their
table, and columns are looked up in the very tables whose rows are read.

That something is missed is an outcome of its own (`Failure.outOfRange`), for texts, statements,
columns and rows alike. No definition excludes it, so each of the four reasons is a theorem, and the
conjunction in `Session.run_ends` gives them one by one beside what they come to together.

## The reasons, one by one

* Characters: reading by position comes to what reading the text itself comes to
  (`Scanner.readTokens_eq_scan`), and that has no positions.
* Tokens: some tokens are always left for the next reader (`TokenReader.Orderly`), so a refusal is
  about a token (`Statement.ofTokens_eq_error`).
* Rows: nothing that a client comes to is ill-formed (`Client.Reached.all_wellFormed`), and in a
  well-formed table a row is as wide as the titles are many.
* Columns: what `Column.resolve` finds in tables has a value in rows that fit them
  (`Fit.value_of_resolve`).
-/

namespace Tabular

namespace Session

variable {prompt : Option String} {passes : Nat → Passes}

/-! ### Where a session stands after some events -/

/-- Where a session over a well-formed database stands after events: it goes on, and the database is
well-formed still, or it has ended, for a reason that was among the events. -/
inductive Stands (es : List Event) : Transcript → Prop
  | goOn {t : Transcript} (hflow : t.flow = .goOn) (hdb : t.state.database.WellFormed) :
    Stands es t
  | finish {t : Transcript} (hflow : t.flow = .finish) : Stands es t
  | stop {t : Transcript} {fault : Disk.Fault} (hflow : t.flow = .stop fault)
    (hmem : .unreadable fault ∈ es) : Stands es t

/-- What one event comes to. -/
theorem State.stands_reply {s : State} (hs : s.database.WellFormed) (event : Event) :
    (s.reply prompt passes event).flow = .goOn ∧
        (s.step prompt passes event).database.WellFormed ∨
      (s.reply prompt passes event).flow = .finish ∨
      ∃ fault, event = .unreadable fault ∧ (s.reply prompt passes event).flow = .stop fault := by
  cases event with
  | statement text =>
    by_cases hexit : (s.outcome passes text).1 = .ok .exit
    · refine .inr (.inl ?_)
      rw [reply_statement]
      show (Database.report _ _ (s.outcome passes text).1).2 = _
      rw [hexit]
      rfl
    · exact .inl (reply_goOn hs hexit)
  | lineEnd idle => exact .inl ⟨rfl, hs⟩
  | unreadable fault => exact .inr (.inr ⟨fault, rfl, rfl⟩)
  | finish idle => exact .inr (.inl rfl)

/-- **A session never asks for a value where there is none.** -/
theorem stands_play {s : State} (hs : s.database.WellFormed) (es : List Event) :
    Stands es (play prompt passes es s) := by
  induction es generalizing s with
  | nil => exact .goOn rfl hs
  | cons event es ih =>
    rw [play_cons]
    rcases s.stands_reply hs event with ⟨hflow, hdb⟩ | hflow | ⟨fault, rfl, hflow⟩
    · rw [if_pos hflow]
      rcases ih hdb with ⟨hflow', hdb'⟩ | hflow' | ⟨hflow', hmem⟩
      · exact .goOn hflow' hdb'
      · exact .finish hflow'
      · exact .stop hflow' (List.mem_cons_of_mem event hmem)
    · rw [hflow, if_neg (by simp)]
      exact .finish rfl
    · rw [hflow, if_neg (by simp)]
      exact .stop rfl (by simp)

/-- So no text that is carried out misses a value. -/
theorem executed_ne_outOfRange {es : List Event} {s : State} (hs : s.database.WellFormed)
    {p : String × Except Failure Output} (h : p ∈ executed prompt passes es s) :
    p.2 ≠ .error .outOfRange := by
  induction es generalizing s with
  | nil => cases h
  | cons event es ih =>
    rw [executed] at h
    rcases List.mem_append.1 h with h | h
    · obtain ⟨text, -, rfl⟩ := List.mem_map.1 h
      exact State.outcome_ne_outOfRange hs text
    · split at h
      · next hgoOn =>
        rcases s.stands_reply hs event with ⟨-, hdb⟩ | hflow | ⟨fault, -, hflow⟩
        · exact ih hdb h
        · rw [hflow] at hgoOn
          cases hgoOn
        · rw [hflow] at hgoOn
          cases hgoOn
      · cases h

/-- A session does not go on after an event that ends it. -/
theorem play_ne_goOn {es : List Event} (h : ∃ e ∈ es, ¬ e.Within) (s : State) :
    (play prompt passes es s).flow ≠ .goOn := by
  induction es generalizing s with
  | nil => simp at h
  | cons event es ih =>
    rw [play_cons]
    split
    · next hflow =>
      obtain ⟨e, he, hends⟩ := h
      rcases List.mem_cons.1 he with rfl | he
      · cases e with
        | statement text => exact absurd trivial hends
        | lineEnd idle => exact absurd trivial hends
        | unreadable fault => cases hflow
        | finish idle => cases hflow
      · exact ih ⟨e, he, hends⟩ _
    · next hflow => exact hflow

end Session

/-! ### Texts -/

namespace Scanner

/-- Reading a text by position comes to what the scanner of characters comes to. -/
theorem readTokens_ofText (text : String) :
    (ofText text).readTokens = (ofText text).reached (Token.scan text.toList) :=
  readTokens_eq_scan (Nat.zero_le _)

/-- A text is refused for its lexemes, and never because a character is asked for beyond its end. -/
theorem readTokens_ne_outOfRange (text : String) (left : Scanner) :
    (ofText text).readTokens ≠ .error .outOfRange left := by
  intro h
  rw [readTokens_ofText] at h
  cases hscan : Token.scan text.toList with
  | ok ts rest =>
    rw [hscan] at h
    cases h
  | error e rest =>
    obtain ⟨fault, rfl, -⟩ := Token.scan_eq_error_iff.1 hscan
    rw [hscan] at h
    cases h

end Scanner

/-! ### The events of scripts -/

/-- A script has an end, and it cannot be read on at a line that is not text and at no other. -/
theorem Splitter.ends_events (s : Splitter) (lines : List (Option String)) :
    (∃ e ∈ s.events lines, ¬ e.Within) ∧
      ∀ fault, .unreadable fault ∈ s.events lines → fault = .notUtf8 := by
  induction lines generalizing s with
  | nil => exact ⟨⟨.finish s.idle, by simp [events], id⟩, by simp [events]⟩
  | cons line? lines ih =>
    cases line? with
    | none => exact ⟨⟨.unreadable .notUtf8, by simp [events], id⟩, by simp [events]⟩
    | some text =>
      obtain ⟨⟨e, he, hends⟩, hfault⟩ := ih (s.line text).2
      refine ⟨⟨e, List.mem_append_right _ he, hends⟩, fun fault h ↦ ?_⟩
      rcases List.mem_append.1 h with h | h
      · simp at h
      · exact hfault fault h

namespace Session

variable {prompt : Option String} {passes : Nat → Passes}

/-- A session ends with its script or at an `exit`, or at a line that is no text. -/
theorem flow_run {s : State} (hs : s.database.WellFormed) (script : Text.Bytes) :
    (run prompt passes script s).flow = .finish ∨
      (run prompt passes script s).flow = .stop .notUtf8 := by
  obtain ⟨hends, hfault⟩ := Splitter.start.ends_events (Text.textLines script)
  have hstands : Stands (scriptEvents script) (play prompt passes (scriptEvents script) s) :=
    stands_play hs _
  rcases hstands with ⟨hflow, -⟩ | hflow | ⟨hflow, hmem⟩
  · exact absurd hflow (play_ne_goOn hends s)
  · exact .inl hflow
  · rw [hfault _ hmem] at hflow
    exact .inr hflow

/-- A session whose script is read from a file on the way ends like this too, or where the file
cannot be read. A statement may store a table over it. -/
theorem flow_runFile {s : State} (hs : s.database.WellFormed) (path : String) :
    (runFile passes path s).flow = .finish ∨
      ∃ fault, (runFile passes path s).flow = .stop fault := by
  suffices ∀ (r : Disk.Reader) (splitter : Splitter),
      (playFile passes r splitter s).flow = .finish ∨
        ∃ fault, (playFile passes r splitter s).flow = .stop fault from this _ _
  intro r splitter
  fun_induction playFile passes r splitter s with
  | case1 r splitter s fault hline => exact .inr ⟨fault, rfl⟩
  | case2 r splitter s bytes r' hline events splitter' hpiece t hgoOn ih =>
    have hstands : Stands events t := stands_play hs events
    rcases hstands with ⟨-, hdb⟩ | hflow | ⟨hflow, -⟩
    · exact ih hdb
    · exact absurd (hgoOn.2.symm.trans hflow) (by simp)
    · exact absurd (hgoOn.2.symm.trans hflow) (by simp)
  | case3 r splitter s bytes r' hline events splitter' hpiece t hgoOn =>
    have hstands : Stands events t := stands_play hs events
    rcases hstands with ⟨hflow, -⟩ | hflow | ⟨hflow, -⟩
    · -- nothing was read, so the script ends here
      have hbytes : bytes = [] := by
        by_contra hne
        exact hgoOn ⟨hne, hflow⟩
      subst hbytes
      cases hpiece
      exact absurd hflow (play_ne_goOn ⟨.finish splitter.idle, by simp, id⟩ s)
    · exact .inl hflow
    · exact .inr ⟨_, hflow⟩

/-- **A session over a well-formed database misses nothing**, whatever the script, the files, the
directory and the prompt. It ends with its script or at an `exit`, or where a line is no text, and
no text that it carries out comes to a miss; a script in a file ends like this too, or where the
file cannot be read. For each of the places where something could be missed there is a reason of its
own: reading a text by position asks for no character beyond its end, and comes to what the session
reads; a statement is read from any tokens at all, if there are some, and a text reads as some; a
column that was found in tables has a value in rows of theirs; and so queries of a well-formed
database find every value they look for. -/
theorem run_ends {s : State} (hs : s.database.WellFormed) (passes : Nat → Passes) :
    (∀ prompt script,
      ((run prompt passes script s).flow = .finish ∨
        (run prompt passes script s).flow = .stop .notUtf8) ∧
      ∀ p ∈ executed prompt passes (scriptEvents script) s, p.2 ≠ .error .outOfRange) ∧
    (∀ path, (runFile passes path s).flow = .finish ∨
      ∃ fault, (runFile passes path s).flow = .stop fault) ∧
    (∀ text left,
      (Scanner.ofText text).readTokens = (Scanner.ofText text).reached (Token.scan text.toList) ∧
      (Scanner.ofText text).readTokens ≠ .error .outOfRange left) ∧
    (∀ text ts, Token.ofText text = .ok ts → ts ≠ []) ∧
    (∀ ts, ts ≠ [] → Statement.ofTokens ts ≠ .error .outOfRange) ∧
    (∀ tables sources, Fit tables sources → ∀ title c, Column.resolve tables title = .ok c →
      ∃ v, c.value sources = some v) ∧
    ∀ db : Database, db.WellFormed → ∀ orders q, db.select orders q ≠ .error .outOfRange := by
  refine ⟨fun prompt script ↦ ⟨flow_run hs script, fun p hp ↦ executed_ne_outOfRange hs hp⟩,
    flow_runFile hs, fun text left ↦ ?_, fun text ts hts ↦ ?_, fun ts hne h ↦ ?_,
    fun tables sources hfit title c hc ↦ ?_, fun db hdb orders q ↦ hdb.select_ne_outOfRange⟩
  · exact ⟨Scanner.readTokens_ofText text, Scanner.readTokens_ne_outOfRange text left⟩
  · obtain ⟨us, rfl, -⟩ := Token.ofText_eq_ok_iff.1 hts
    simp
  · obtain ⟨fault, heq, -⟩ := Statement.ofTokens_eq_error hne h
    cases heq
  · obtain ⟨v, hvalue, -⟩ := hfit.value_of_resolve hc
    exact ⟨v, hvalue⟩

/-- A script that joins a table with itself, fails to load a file and breaks off at a line that is
not text. -/
theorem run_ends_broken :
    let s : State := ⟨⟨"", [("t", ⟨["a", "b"], [⟨["x", "y"]⟩]⟩)]⟩,
      ⟨[(⟨.above 0, ["u.db"]⟩, .file [255, 10])]⟩, 0⟩
    let script := Text.utf8 "select * from t, t where a < b; load u; 'x\n" ++ [255]
    s.database.WellFormed ∧ (run (some "> ") (fun _ ↦ .arrival) script s).flow = .stop .notUtf8 ∧
      ∀ p ∈ executed (some "> ") (fun _ ↦ .arrival) (scriptEvents script) s,
        p.2 ≠ .error .outOfRange := by
  intro s script
  have hs : s.database.WellFormed := by
    intro entry hentry
    obtain rfl := List.mem_singleton.1 hentry
    exact ⟨by decide, by decide, by decide, by decide⟩
  obtain ⟨hend, hexecuted⟩ := (run_ends hs fun _ ↦ .arrival).1 (some "> ") script
  refine ⟨hs, hend.resolve_left ?_, hexecuted⟩
  decide +kernel

end Session

end Tabular
