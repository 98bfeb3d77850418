import Tabular.Proofs.Session.Executed
import Tabular.Proofs.Statement.Grammar
import Tabular.Proofs.Token.Layout

/-!
# Scripts of statements

A script that reads as the tokens of statements, each with its semicolon, does what the statements
do one after the other (`Session.run_of_reads`): nothing of it depends on how they are laid out in
lines, or on what their literals hold. Statements whose tokens have lexemes can be written as such a
script, each in its line (`Statement.ofText_script`).

`Session.carryOut` is a session without scripts: statements are carried out one after the other, and
no text is cut or read. That a script does the same is one theorem about any script that reads as
the statements' tokens. How scripts are cut into texts comes in through `Session.run_statements`
only, which says that the texts read as the divided tokens.
-/

namespace Tabular

open Disk (FileTree)

/-! ### The tokens of a script -/

theorem mem_commaSeparated {items : List Token} {t : Token} (h : t ∈ commaSeparated items) :
    t = .comma ∨ t ∈ items := by
  induction items with
  | nil => cases h
  | cons item items ih =>
    match items, h with
    | [], h => exact .inr h
    | next :: rest, h =>
      rcases List.mem_cons.1 h with rfl | h
      · exact .inr List.mem_cons_self
      · rcases List.mem_cons.1 h with rfl | h
        · exact .inl rfl
        · exact (ih h).imp_right (List.mem_cons_of_mem item)

theorem semicolon_not_mem_commaSeparated {items : List Token} (h : .semicolon ∉ items) :
    .semicolon ∉ commaSeparated items :=
  fun hmem ↦ (mem_commaSeparated hmem).elim Token.noConfusion h

/-- A comparison is written with three tokens, and none of them is a semicolon. -/
theorem Comparison.semicolon_not_mem_tokens (c : Comparison) : .semicolon ∉ c.tokens := by
  rw [Comparison.tokens]
  cases c.operand <;> simp [Operand.tokens]

theorem Query.semicolon_not_mem_tokens (q : Query) : .semicolon ∉ q.tokens := by
  have hselection : .semicolon ∉ q.selection.tokens := by
    cases q.selection with
    | all => decide
    | columns titles => exact semicolon_not_mem_commaSeparated (by simp)
  have htables : .semicolon ∉ commaSeparated (q.tables.map .ident) :=
    semicolon_not_mem_commaSeparated (by simp)
  have hwhere : .semicolon ∉ whereTokens q.comparisons := by
    cases q.comparisons with
    | nil => exact List.not_mem_nil
    | cons c cs => simp [whereTokens, furtherTokens, Comparison.semicolon_not_mem_tokens]
  simp [Query.tokens, hselection, htables, hwhere]

namespace Statement

/-- The tokens of statements, each with its semicolon. -/
def allTokens (ss : List Statement) : List Token :=
  ss.flatMap fun s ↦ s.tokens ++ [.semicolon]

/-- The statements in lines, each in one of its own. -/
def script (ss : List Statement) : String :=
  String.ofList (ss.flatMap fun s ↦ (Token.write (s.tokens ++ [.semicolon])).toList ++ ['\n'])

/-- No statement has a semicolon before its own. -/
theorem semicolon_not_mem_tokens (s : Statement) : .semicolon ∉ s.tokens := by
  cases s with
  | create name contents =>
    cases contents with
    | columns titles =>
      have htitles : .semicolon ∉ commaSeparated (titles.map .ident) :=
        semicolon_not_mem_commaSeparated (by simp)
      simp [tokens, Contents.tokens, htitles]
    | query q => simp [tokens, Contents.tokens, q.semicolon_not_mem_tokens]
  | insert name values =>
    have hvalues : .semicolon ∉ commaSeparated (values.map .literal) :=
      semicolon_not_mem_commaSeparated (by simp)
    simp [tokens, hvalues]
  | select q => exact q.semicolon_not_mem_tokens
  | _ => simp [tokens]

/-- Divided at the semicolons, the tokens of statements are those of each. -/
theorem statements_allTokens (ss : List Statement) :
    Token.statements (allTokens ss) = ss.map fun s ↦ s.tokens ++ [.semicolon] := by
  induction ss with
  | nil => rfl
  | cons s ss ih =>
    have hsplit : allTokens (s :: ss) = s.tokens ++ .semicolon :: allTokens ss := by
      simp [allTokens]
    rw [hsplit, Token.statements_append s.semicolon_not_mem_tokens, ih]
    rfl

theorem remainder_allTokens (ss : List Statement) : Token.remainder (allTokens ss) = [] := by
  induction ss with
  | nil => rfl
  | cons s ss ih =>
    have hsplit : allTokens (s :: ss) = s.tokens ++ .semicolon :: allTokens ss := by
      simp [allTokens]
    rw [hsplit, Token.remainder_append s.semicolon_not_mem_tokens, ih]

end Statement

/-- Lines that read as tokens read as all of them together. -/
theorem Token.Reads.append_line {ts us : List Token} {line rest : List Char} (h : Reads ts line)
    (h' : Reads us rest) : Reads (ts ++ us) (line ++ '\n' :: rest) := by
  have hlf : Text.isBlank '\n' = true := by decide
  induction h with
  | nil hblanks =>
    rw [List.append_cons]
    exact h'.blanks_append
      (List.forall_mem_append.2 ⟨hblanks, List.forall_mem_singleton.2 hlf⟩)
  | @cons blanks lexeme left t ts hblanks hlexeme hparts hleft ih =>
    rw [List.append_assoc, List.append_assoc]
    refine .cons hblanks hlexeme (hparts.of_head? fun c hc ↦ ?_) ih
    cases left with
    | nil =>
      obtain rfl : '\n' = c := Option.some.inj hc
      exact .inr hlf
    | cons d left => exact .inl hc

/-- **Statements whose tokens have lexemes can be written in lines.** -/
theorem Statement.ofText_script {ss : List Statement}
    (h : ∀ s ∈ ss, ∀ t ∈ s.tokens, ∃ text, Token.Lexeme t text) :
    Token.ofText (script ss) = .ok (allTokens ss ++ [.eof]) := by
  refine Token.ofText_of_reads ?_
  induction ss with
  | nil => exact .nil (by simp)
  | cons s ss ih =>
    have hline : Token.Reads (s.tokens ++ [.semicolon])
        (Token.write (s.tokens ++ [.semicolon])).toList := by
      refine Token.reads_write (List.forall_mem_append.2 ⟨h s List.mem_cons_self, ?_⟩)
      exact List.forall_mem_singleton.2 ⟨[';'], .symbol rfl⟩
    have hrest := hline.append_line (ih fun s' h' ↦ h s' (List.mem_cons_of_mem s h'))
    rw [List.append_cons _ '\n'] at hrest
    exact hrest

/-! ### Playing statements -/

namespace Session

variable {passes : Nat → Passes}

/-- Carries out statements, as long as the session goes on. -/
def carryOut (passes : Nat → Passes) : List Statement → State → Transcript
  | [], s => ⟨[], s, .goOn⟩
  | statement :: rest, s =>
    let ((outcome, db), files) := s.files.perform (s.database.run (passes s.statements) statement)
    let (messages, flow) := db.report (passes s.statements).shown outcome
    let s' : State := ⟨db, files, s.statements + 1⟩
    if flow = .goOn then (carryOut passes rest s').after messages else ⟨messages, s', flow⟩

/-- A text that reads as a statement is carried out as the statement. -/
theorem execute_of_spelled {statement : Statement} (h : statement.Spellable) {text : String}
    (htext : Token.ofText text = .ok (statement.tokens ++ [.semicolon, .eof])) (db : Database)
    (orders : Passes) : db.execute orders text = db.run orders statement := by
  have hread : Statement.ofTokens (statement.tokens ++ [.semicolon, .eof]) = .ok statement :=
    Statement.ofTokens_eq_ok_iff.2 ⟨_, .tokens h, List.prefix_refl _⟩
  have hboth : (Token.ofText text >>= Statement.ofTokens) = .ok statement := by
    rw [htext]
    exact hread
  rw [Database.execute, hboth]

/-- **Events that complete statements carry them out.** -/
theorem play_eq_carryOut {es : List Event} (hes : ∀ e ∈ es, e.Within) {ss : List Statement}
    (hss : ∀ statement ∈ ss, statement.Spellable)
    (htexts : (es.filterMap Event.text?).map Token.ofText =
      ss.map fun statement ↦ .ok (statement.tokens ++ [.semicolon, .eof])) (s : State) :
    play none passes es s = carryOut passes ss s := by
  induction es generalizing ss s with
  | nil =>
    obtain rfl : ss = [] := List.map_eq_nil_iff.1 htexts.symm
    rfl
  | cons event es ih =>
    have hrest : ∀ e ∈ es, e.Within := fun e he ↦ hes e (List.mem_cons_of_mem event he)
    cases event with
    | statement text =>
      obtain ⟨statement, ss, rfl, htext, htexts⟩ := List.map_eq_cons_iff.1 htexts.symm
      have hspellable := hss statement List.mem_cons_self
      have hexecute := execute_of_spelled hspellable htext.symm s.database (passes s.statements)
      rw [play, act, FileTree.perform_map, hexecute, carryOut]
      simp only [State.next]
      rw [ih hrest (fun st hst ↦ hss st (List.mem_cons_of_mem _ hst)) htexts.symm]
    | lineEnd idle =>
      rw [← ih hrest hss htexts s]
      cases idle <;> rfl
    | unreadable fault => exact absurd (hes _ List.mem_cons_self) id
    | finish idle => exact absurd (hes _ List.mem_cons_self) id

/-- **A script of statements does what the statements do**, and then it ends. -/
theorem run_of_reads {ss : List Statement} (hss : ∀ statement ∈ ss, statement.Spellable)
    {text : String} (htext : Token.ofText text = .ok (Statement.allTokens ss ++ [.eof]))
    (s : State) :
    run none passes (Text.utf8 text) s =
      let t := carryOut passes ss s
      if t.flow = .goOn then { t with flow := .finish } else t := by
  obtain ⟨us, heq, hreads⟩ := Token.ofText_eq_ok_iff.1 htext
  obtain rfl : Statement.allTokens ss = us := List.append_cancel_right heq
  obtain ⟨es, idle, hes, htexts, hwithin, hidle⟩ := scriptEvents_of_reads hreads
  obtain rfl : idle = true := hidle.2 (Statement.remainder_allTokens ss)
  have hplay : play none passes es s = carryOut passes ss s := by
    refine play_eq_carryOut hwithin hss ?_ s
    rw [htexts, Statement.statements_allTokens, List.map_map]
    simp
  show play none passes (scriptEvents (Text.utf8 text)) s = _
  rw [hes, play_append, hplay]
  -- nothing is waiting at the end, and so nothing is written there
  show (if (carryOut passes ss s).flow = .goOn then
    (⟨[], (carryOut passes ss s).state, .finish⟩ : Transcript).after (carryOut passes ss s).messages
    else carryOut passes ss s) = _
  rw [Transcript.after, List.append_nil]

end Session

end Tabular
