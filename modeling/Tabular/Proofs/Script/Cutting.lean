import Tabular.Proofs.Text.Lines
import Tabular.Proofs.Token.Lexeme
import Tabular.Script

/-!
# Cutting scripts into statements

A script is cut at semicolons outside quotes, and what stands within quotes is told by counting them
along a line. The reader of tokens knows literals instead, and knows nothing of lines. The two agree
on every text that reads as tokens at all: outside literals there are no quotes, and no literal goes
on over a line's end.

The cutting is looked at character by character (`Splitter.feed`), line feeds included, over a
script whose lines end in line feeds alone. `Splitter.feed_reads` says what it makes of a text that
reads as tokens; for any text at all, `Splitter.Cut` says what each statement cut out of it looks
like: fed from the beginning, it is cut at its very end.

The induction that shows the agreement is on the tokens of a text and not on its characters. A
lexeme is fed as a whole, and the state after it is known: outside quotes, with the lexeme waiting
behind what waited before (`Splitter.feed_lexeme`). For a text that does not read as tokens there
are no lexemes to go by. There it helps that a splitter's state can be had again from the text that
is waiting in it (`Splitter.Settled`), and this is what each character keeps.

## What is not said

Of a text that does not read as tokens it is not said where it is cut. Quotes are counted along a
line, and in a line with an odd number of them the semicolons behind the last one complete nothing.
What is said holds of all texts: a statement that was cut out of anything is cut at its own end when
it is taken by itself.
-/

namespace Tabular

/-! ### Cutting tokens -/

namespace Token

/-- The tokens up to each semicolon, which is included. -/
def statements (ts : List Token) : List (List Token) :=
  (ts.splitOn .semicolon).dropLast.map (· ++ [.semicolon])

/-- The tokens after the last semicolon. -/
def remainder (ts : List Token) : List Token :=
  (ts.splitOn .semicolon).getLast (List.splitOn_ne_nil _ _)

theorem statements_of_not_mem {ts : List Token} (h : .semicolon ∉ ts) : statements ts = [] := by
  rw [statements, List.splitOn_eq_singleton h]
  rfl

theorem remainder_of_not_mem {ts : List Token} (h : .semicolon ∉ ts) : remainder ts = ts := by
  simp only [remainder, List.splitOn_eq_singleton h, List.getLast_singleton]

theorem statements_append {body : List Token} (h : .semicolon ∉ body) (rest : List Token) :
    statements (body ++ .semicolon :: rest) = (body ++ [.semicolon]) :: statements rest := by
  rw [statements, List.splitOn_append_cons_self_of_not_mem h,
    List.dropLast_cons_of_ne_nil (List.splitOn_ne_nil _ _)]
  rfl

/-- What comes after the last semicolon does not depend on the statements before it. -/
theorem remainder_append {body : List Token} (h : .semicolon ∉ body) (rest : List Token) :
    remainder (body ++ .semicolon :: rest) = remainder rest := by
  simp only [remainder, List.splitOn_append_cons_self_of_not_mem h]
  exact List.getLast_cons (List.splitOn_ne_nil _ _)

/-- **The cut loses nothing**: the statements one after the other, and then the remainder, are the
tokens. -/
theorem flatten_statements_append (ts : List Token) :
    (statements ts).flatten ++ remainder ts = ts := by
  induction ts using Text.piece_induction Token.semicolon with
  | last body h => rw [statements_of_not_mem h, remainder_of_not_mem h]; rfl
  | cons body rest h ih =>
    rw [statements_append h, remainder_append h, List.flatten_cons, List.append_assoc, ih,
      List.append_assoc]
    rfl

/-- Each statement has its semicolon at the end and nowhere else. -/
theorem eq_append_semicolon_of_mem_statements {ts s : List Token} (h : s ∈ statements ts) :
    ∃ body, s = body ++ [.semicolon] ∧ .semicolon ∉ body := by
  induction ts using Text.piece_induction Token.semicolon with
  | last body hbody => simp [statements_of_not_mem hbody] at h
  | cons body rest hbody ih =>
    rw [statements_append hbody] at h
    rcases List.mem_cons.1 h with rfl | h
    · exact ⟨body, rfl, hbody⟩
    · exact ih h

/-- **A text that reads as tokens with a semicolon among them falls apart at the first one**: what
stands before it, with and without it, and what stands after it read as the tokens there. -/
theorem Reads.exists_append {body ts : List Token} {text : List Char}
    (h : Reads (body ++ .semicolon :: ts) text) :
    ∃ front rest, text = front ++ ';' :: rest ∧ Reads body front ∧
      Reads (body ++ [.semicolon]) (front ++ [';']) ∧ Reads ts rest := by
  induction body generalizing text with
  | nil =>
    cases h with
    | @cons blanks lexeme rest _ _ hblanks hlexeme hparts hrest =>
      obtain rfl := hlexeme.eq_of_semicolon
      refine ⟨blanks, rest, rfl, .nil hblanks, ?_, hrest⟩
      show Reads [.semicolon] (blanks ++ ([';'] ++ []))
      exact .cons hblanks hlexeme trivial (.nil (by simp))
  | cons t body ih =>
    cases h with
    | @cons blanks lexeme rest _ _ hblanks hlexeme hparts hrest =>
      obtain ⟨front, rest', rfl, hbody, hfront, hrest'⟩ := ih hrest
      -- whatever is cut away, the lexeme is followed by what followed it before, or by nothing
      have hends : Parts t front ∧ Parts t (front ++ [';']) := by
        cases front with
        | nil => exact ⟨hparts.of_head? (by simp), hparts.of_head? fun c hc ↦ .inl hc⟩
        | cons d front =>
          exact ⟨hparts.of_head? fun c hc ↦ .inl hc, hparts.of_head? fun c hc ↦ .inl hc⟩
      refine ⟨blanks ++ (lexeme ++ front), rest', by simp, .cons hblanks hlexeme hends.1 hbody, ?_,
        hrest'⟩
      simpa using Reads.cons hblanks hlexeme hends.2 hfront

end Token

/-! ### Cutting texts -/

namespace Splitter

open Token (Lexeme Reads)

/-- Takes one character of a script whose lines end in line feeds. -/
def step (s : Splitter) (c : Char) : Option String × Splitter :=
  if c = '\n' then (none, s.endLine) else s.char c

/-- Takes characters of a script whose lines end in line feeds, and gives the statements completed
among them. -/
def feed (s : Splitter) : List Char → List String × Splitter
  | [] => ([], s)
  | c :: cs => ((s.step c).1.toList ++ ((s.step c).2.feed cs).1, ((s.step c).2.feed cs).2)

theorem feed_append (s : Splitter) (cs cs' : List Char) :
    s.feed (cs ++ cs') =
      ((s.feed cs).1 ++ ((s.feed cs).2.feed cs').1, ((s.feed cs).2.feed cs').2) := by
  induction cs generalizing s with
  | nil => rfl
  | cons c cs ih => simp only [List.cons_append, feed, ih, List.append_assoc]

/-- Within a line it makes no difference that line feeds are looked for. -/
theorem chars_eq_feed {cs : List Char} (h : '\n' ∉ cs) (s : Splitter) : s.chars cs = s.feed cs := by
  induction cs generalizing s with
  | nil => rfl
  | cons c cs ih =>
    rw [List.mem_cons, not_or] at h
    have hstep : s.step c = s.char c := if_neg (Ne.symm h.1)
    rw [chars, feed, hstep]
    split <;>
      next heq => simp only [heq, ih h.2, Option.toList, List.nil_append, List.singleton_append]

/-- A line is its characters and a line feed. -/
theorem line_eq_feed {text : String} (h : '\n' ∉ text.toList) (s : Splitter) :
    s.line text =
      ((s.feed (text.toList ++ ['\n'])).1.map .statement ++
        [.lineEnd (s.feed (text.toList ++ ['\n'])).2.idle],
        (s.feed (text.toList ++ ['\n'])).2) := by
  simp [line, chars_eq_feed h, feed_append, feed, step]

/-! ### Texts that read as tokens -/

theorem push_append_ofList (pending : String) (c : Char) (cs : List Char) :
    pending.push c ++ String.ofList cs = pending ++ String.ofList (c :: cs) := by
  apply String.ext
  simp

/-- Outside quotes, what holds no semicolon and no quote is left waiting. -/
theorem feed_plain {cs : List Char} (h : ∀ c ∈ cs, c ≠ ';' ∧ c ≠ '\'') (pending : String) :
    feed ⟨pending, false⟩ cs = ([], ⟨pending ++ String.ofList cs, false⟩) := by
  induction cs generalizing pending with
  | nil => simp [feed]
  | cons c cs ih =>
    have hc := h c (by simp)
    have hstep : step ⟨pending, false⟩ c = (none, ⟨pending.push c, false⟩) := by
      unfold step
      split
      · -- the end of a line closes quotes, and there are none open
        next hlf => simp [endLine, hlf]
      · simp [char, hc]
    rw [feed, hstep, ih fun d hd ↦ h d (by simp [hd]), push_append_ofList]
    rfl

/-- Within quotes, what a literal may hold is left waiting, semicolons too. -/
theorem feed_value {cs : List Char} (h : ∀ c ∈ cs, isLiteralChar c = true) (pending : String) :
    feed ⟨pending, true⟩ cs = ([], ⟨pending ++ String.ofList cs, true⟩) := by
  induction cs generalizing pending with
  | nil => simp [feed]
  | cons c cs ih =>
    have hc := h c (by simp)
    simp only [isLiteralChar, Bool.and_eq_true, bne_iff_ne] at hc
    have hstep : step ⟨pending, true⟩ c = (none, ⟨pending.push c, true⟩) := by
      -- a literal holds no line feed, so no line's end closes the quotes
      rw [step, if_neg hc.1.2]
      simp [char, hc]
    rw [feed, hstep, ih fun d hd ↦ h d (by simp [hd]), push_append_ofList]
    rfl

/-- **A lexeme is taken as a whole**, its quotes in pairs, and completes nothing unless it is the
semicolon. -/
theorem feed_lexeme {t : Token} {lexeme : List Char} (h : Lexeme t lexeme) (ht : t ≠ .semicolon)
    (pending : String) :
    feed ⟨pending, false⟩ lexeme = ([], ⟨pending ++ String.ofList lexeme, false⟩) := by
  cases h with
  | @symbol c t hc =>
    apply feed_plain
    unfold Token.ofSymbol? at hc
    split at hc <;> cases hc <;> first | exact absurd rfl ht | simp
  | relation r =>
    have hall : r.symbol.toList.all (fun c ↦ c != ';' && c != '\'') = true := by cases r <;> decide
    exact feed_plain (by simpa using hall) pending
  | @literal value hvalue =>
    -- the first quote opens, the last one closes, and there are none between
    have hopen : step ⟨pending, false⟩ '\'' = (none, ⟨pending.push '\'', true⟩) := by
      simp [step, char]
    have hclose (s : String) : step ⟨s, true⟩ '\'' = (none, ⟨s.push '\'', false⟩) := by
      simp [step, char]
    have htext : (pending.push '\'' ++ String.ofList value).push '\'' =
        pending ++ String.ofList ('\'' :: (value ++ ['\''])) := by
      apply String.ext
      simp
    rw [feed, hopen, feed_append, feed_value hvalue, feed, hclose, htext]
    rfl
  | @word c cs hcs =>
    apply feed_plain
    intro d hd
    constructor
    all_goals
      rintro rfl
      exact absurd (hcs _ hd) (by decide)

/-- Blanks, line ends among them, are left waiting. -/
theorem feed_blanks {blanks : List Char} (h : ∀ c ∈ blanks, Text.isBlank c = true)
    (pending : String) :
    feed ⟨pending, false⟩ blanks = ([], ⟨pending ++ String.ofList blanks, false⟩) := by
  apply feed_plain
  intro d hd
  constructor
  all_goals
    rintro rfl
    exact absurd (h _ hd) (by decide)

/-- A text that reads as tokens without a semicolon completes nothing, and ends outside quotes. -/
theorem feed_of_not_mem {ts : List Token} {text : List Char} (h : Reads ts text)
    (hts : .semicolon ∉ ts) (pending : String) :
    feed ⟨pending, false⟩ text = ([], ⟨pending ++ String.ofList text, false⟩) := by
  induction h generalizing pending with
  | nil hblanks => exact feed_blanks hblanks pending
  | @cons blanks lexeme rest t ts hblanks hlexeme hparts hrest ih =>
    rw [List.mem_cons, not_or] at hts
    rw [feed_append, feed_blanks hblanks, feed_append, feed_lexeme hlexeme (Ne.symm hts.1),
      ih hts.2]
    simp [String.append_assoc]

/-- **A text that reads as tokens is cut where its tokens are**: the statements read as the tokens
up to each semicolon, and what is left waiting, outside quotes, reads as the remainder. -/
theorem feed_reads {ts : List Token} {text : List Char} (h : Reads ts text) :
    ∃ texts rest, start.feed text = (texts, ⟨rest, false⟩) ∧
      texts.map Token.ofText = (Token.statements ts).map (fun s ↦ .ok (s ++ [.eof])) ∧
      Reads (Token.remainder ts) rest.toList := by
  induction ts using Text.piece_induction Token.semicolon generalizing text with
  | last body hbody =>
    refine ⟨[], String.ofList text, ?_, ?_, ?_⟩
    · show feed ⟨"", false⟩ text = _
      simpa using feed_of_not_mem h hbody ""
    · rw [Token.statements_of_not_mem hbody]
      rfl
    · rwa [Token.remainder_of_not_mem hbody, String.toList_ofList]
  | cons body ts hbody ih =>
    obtain ⟨front, rest, rfl, hfront, hstatement, hrest⟩ := h.exists_append
    obtain ⟨texts, left, hfeed, htexts, hleft⟩ := ih hrest
    -- at the first semicolon the splitter is outside quotes, cuts, and begins anew with the rest
    have hcut : step ⟨String.ofList front, false⟩ ';' =
        (some (String.ofList (front ++ [';'])), start) := by
      simp [step, char, start, String.ofList_append, String.push_eq_append]
    refine ⟨String.ofList (front ++ [';']) :: texts, left, ?_, ?_, ?_⟩
    · have hwait : start.feed front = ([], ⟨String.ofList front, false⟩) := by
        show feed ⟨"", false⟩ front = _
        simpa using feed_of_not_mem hfront hbody ""
      rw [feed_append, hwait, feed, hcut, hfeed]
      rfl
    · rw [Token.statements_append hbody, List.map_cons, List.map_cons, htexts,
        Token.ofText_of_reads hstatement]
    · rwa [Token.remainder_append hbody]

/-! ### Any texts -/

/-- Fed from the beginning, the text is cut at its very end and not before. -/
def Cut (text : String) : Prop :=
  start.feed text.toList = ([text], start)

/-- What is waiting leads from the beginning to where the splitter is. -/
def Settled (s : Splitter) : Prop :=
  start.feed s.pending.toList = ([], s)

/-- At the beginning nothing is waiting, so there is nothing to lead anywhere. -/
theorem settled_start : Settled start := rfl

/-- What is waiting, and a character more, leads where the character leads from here. -/
theorem Settled.feed_push {s : Splitter} (hs : s.Settled) (c : Char) :
    start.feed (s.pending.push c).toList = ((s.step c).1.toList, (s.step c).2) := by
  rw [String.toList_push, feed_append, hs]
  simp [feed]

/-- A character either completes a cut text, and then nothing is waiting, or is left waiting with
the rest. -/
theorem Settled.step {s : Splitter} (hs : s.Settled) (c : Char) :
    (∃ text, s.step c = (some text, start) ∧ Cut text) ∨
      ((s.step c).1 = none ∧ (s.step c).2.Settled) := by
  have hpush := hs.feed_push c
  by_cases hlf : c = '\n'
  · have hstep : s.step c = (none, s.endLine) := if_pos hlf
    rw [hstep, hlf] at hpush
    exact .inr ⟨by rw [hstep], by rw [hstep]; exact hpush⟩
  · have hstep : s.step c = s.char c := if_neg hlf
    by_cases hcut : c = ';' ∧ s.inLiteral = false
    · have hchar : s.char c = (some (s.pending.push c), start) := by
        rw [char, if_pos hcut, start, hcut.2]
      rw [hstep, hchar] at hpush
      exact .inl ⟨_, hstep.trans hchar, hpush⟩
    · have hchar : s.char c =
          (none, ⟨s.pending.push c, if c = '\'' then !s.inLiteral else s.inLiteral⟩) :=
        if_neg hcut
      rw [hstep, hchar] at hpush ⊢
      exact .inr ⟨rfl, hpush⟩

/-- **Every statement cut out of anything is cut at its very end.** -/
theorem Settled.feed {s : Splitter} (hs : s.Settled) (cs : List Char) :
    (∀ text ∈ (s.feed cs).1, Cut text) ∧ (s.feed cs).2.Settled := by
  induction cs generalizing s with
  | nil => exact ⟨by simp [Splitter.feed], hs⟩
  | cons c cs ih =>
    rcases hs.step c with ⟨text, hstep, hcut⟩ | ⟨hnone, hsettled⟩
    · obtain ⟨hcuts, hend⟩ := ih settled_start
      rw [Splitter.feed, hstep]
      refine ⟨fun text' h ↦ ?_, hend⟩
      rcases List.mem_cons.1 h with rfl | h
      · exact hcut
      · exact hcuts text' h
    · rw [Splitter.feed, hnone]
      exact ih hsettled

/-- **A cut text that reads as tokens has its semicolon at the end and nowhere else.** -/
theorem Cut.eq_append_semicolon {text : String} {ts : List Token} (h : Cut text)
    (hts : Token.ofText text = .ok ts) :
    ∃ body, ts = body ++ [.semicolon, .eof] ∧ .semicolon ∉ body := by
  obtain ⟨us, rfl, hreads⟩ := Token.ofText_eq_ok_iff.1 hts
  obtain ⟨texts, rest, hfeed, htexts, -⟩ := feed_reads hreads
  obtain rfl : texts = [text] := (congrArg Prod.fst (hfeed.symm.trans h))
  -- one text is cut out of it, which is the text itself, so its tokens are one statement's
  obtain ⟨s, hs, hone⟩ : ∃ s, Token.statements us = [s] ∧ us ++ [.eof] = s ++ [.eof] := by
    rw [List.map_singleton, hts] at htexts
    obtain ⟨s, hs, heq⟩ := List.map_eq_singleton_iff.1 htexts.symm
    exact ⟨s, hs, (Except.ok.inj heq).symm⟩
  obtain ⟨body, rfl, hbody⟩ :=
    Token.eq_append_semicolon_of_mem_statements (hs ▸ List.mem_singleton_self s)
  exact ⟨body, by rw [hone, List.append_assoc]; rfl, hbody⟩

/-- The statements of a line are cut texts. -/
theorem Settled.line {s : Splitter} (hs : s.Settled) {line : String} (hline : '\n' ∉ line.toList) :
    (∀ text, .statement text ∈ (s.line line).1 → Cut text) ∧ (s.line line).2.Settled := by
  obtain ⟨hcuts, hend⟩ := hs.feed (line.toList ++ ['\n'])
  rw [line_eq_feed hline]
  refine ⟨fun text h ↦ ?_, hend⟩
  simp only [List.mem_append, List.mem_map, Event.statement.injEq, exists_eq_right,
    List.mem_singleton, reduceCtorEq, or_false] at h
  exact hcuts text h

/-- Every statement of a script is a cut text, whatever its lines are. -/
theorem Settled.events {s : Splitter} (hs : s.Settled) {lines : List (Option String)}
    (hlines : ∀ line, some line ∈ lines → '\n' ∉ line.toList) {text : String}
    (h : .statement text ∈ s.events lines) : Cut text := by
  induction lines generalizing s with
  | nil => simp [Splitter.events] at h
  | cons line? lines ih =>
    cases line? with
    | none => simp [Splitter.events] at h
    | some line =>
      obtain ⟨hcuts, hend⟩ := hs.line (hlines line (by simp))
      rw [Splitter.events] at h
      rcases List.mem_append.1 h with h | h
      · exact hcuts text h
      · exact ih hend (fun line' h' ↦ hlines line' (by simp [h'])) h

/-- Every statement of a piece of a script is a cut text, too. -/
theorem Settled.piece {s : Splitter} (hs : s.Settled) (bytes : Text.Bytes) :
    (∀ text, .statement text ∈ (s.piece bytes).1 → Cut text) ∧ (s.piece bytes).2.Settled := by
  have hlines : ∀ line, some line ∈ Text.textLines bytes → '\n' ∉ line.toList :=
    fun line hline ↦ Text.not_mem_of_mem_textLines hline
  rw [Splitter.piece]
  split
  · exact ⟨by simp, hs⟩
  · exact ⟨by simp, hs⟩
  · next line rest heq => exact hs.line (hlines line (by simp [heq]))

end Splitter

/-- **Every statement of a script is cut at its very end.** -/
theorem cut_of_mem_scriptEvents {script : Text.Bytes} {text : String}
    (h : .statement text ∈ scriptEvents script) : Splitter.Cut text :=
  Splitter.settled_start.events (fun _ hline ↦ Text.not_mem_of_mem_textLines hline) h

end Tabular
