import Tabular.Proofs.Script.Cutting

/-!
# Scripts that read as tokens

The reader of tokens sees a text as it is; a script is split into lines first, and put together
again with line feeds alone for line ends. `PlainEnds` is what this does to a text. It makes no
difference to tokens (`PlainEnds.reads`), since line ends are blank and no lexeme holds one. So the
events of a script that reads as tokens are known from the tokens (`scriptEvents_of_reads`).

A carriage return is blank wherever it stands, so that one is dropped before a line feed can only
shorten the blanks between two lexemes, never to none, because the line feed stays. The proof takes
the parts of a text one by one: blanks (`PlainEnds.exists_blanks_append`), then a lexeme, which
stays as it is (`PlainEnds.exists_append`). Where blanks end with the carriage return of a line end
the line feed belongs to them too.

## From lines to events

`Splitter.events_map_some` gives the events of lines in terms of what the splitter makes of the
characters, so it is here that cutting by lines and cutting by characters meet. The statements among
the events are those that `Splitter.feed_reads` speaks of, and the idle end is there exactly if no
token remains.
-/

namespace Tabular

/-- The second text is the first with a line feed alone for every line end, at the end of the text
too. -/
inductive PlainEnds : List Char → List Char → Prop
  | nil : PlainEnds [] []
  | last : PlainEnds [] ['\n']
  | keep {text plain : List Char} (c : Char) (h : PlainEnds text plain) :
    PlainEnds (c :: text) (c :: plain)
  | drop {text plain : List Char} (h : PlainEnds text plain) :
    PlainEnds ('\r' :: '\n' :: text) ('\n' :: plain)

namespace PlainEnds

open Token (Lexeme Parts Reads)

theorem refl_append (front : List Char) {text plain : List Char} (h : PlainEnds text plain) :
    PlainEnds (front ++ text) (front ++ plain) := by
  induction front with
  | nil => exact h
  | cons c front ih => exact .keep c ih

/-- A character stays, unless it is the carriage return of a line end. -/
theorem cons_inv {c : Char} {text plain : List Char} (h : PlainEnds (c :: text) plain) :
    (∃ plain', plain = c :: plain' ∧ PlainEnds text plain') ∨
      c = '\r' ∧ ∃ text' plain', text = '\n' :: text' ∧ plain = '\n' :: plain' ∧
        PlainEnds text' plain' := by
  cases h with
  | keep _ h => exact .inl ⟨_, rfl, h⟩
  | drop h => exact .inr ⟨rfl, _, _, rfl, rfl, h⟩

/-- What holds no carriage return stays as it is. -/
theorem exists_append {front text plain : List Char} (hfront : '\r' ∉ front)
    (h : PlainEnds (front ++ text) plain) :
    ∃ plain', plain = front ++ plain' ∧ PlainEnds text plain' := by
  induction front generalizing plain with
  | nil => exact ⟨plain, rfl, h⟩
  | cons c front ih =>
    rw [List.mem_cons, not_or] at hfront
    rcases cons_inv h with ⟨plain, rfl, hrest⟩ | ⟨rfl, -⟩
    · obtain ⟨plain', rfl, h'⟩ := ih hfront.2 hrest
      exact ⟨plain', rfl, h'⟩
    · exact absurd rfl hfront.1

/-- Blanks become blanks, unless the last of them is one half of a line end. -/
theorem exists_blanks_append {blanks text plain : List Char}
    (hblanks : ∀ c ∈ blanks, Text.isBlank c = true) (htext : text.head? ≠ some '\n')
    (h : PlainEnds (blanks ++ text) plain) :
    ∃ blanks' plain', plain = blanks' ++ plain' ∧ (∀ c ∈ blanks', Text.isBlank c = true) ∧
      PlainEnds text plain' := by
  match blanks, h with
  | [], h => exact ⟨[], plain, rfl, by simp, h⟩
  | b :: blanks, h =>
    rcases cons_inv h with ⟨plain, rfl, hrest⟩ | ⟨rfl, text', plain, hlf, rfl, hrest⟩
    · obtain ⟨blanks', plain', rfl, hblanks', h'⟩ :=
        exists_blanks_append (fun c hc ↦ hblanks c (List.mem_cons_of_mem b hc)) htext hrest
      exact ⟨b :: blanks', plain', rfl, List.forall_mem_cons.2 ⟨hblanks b (by simp), hblanks'⟩, h'⟩
    · -- the text does not begin with the line feed of the line end, so it stands among the blanks
      cases blanks with
      | nil => exact absurd (congrArg List.head? hlf) htext
      | cons b' blanks =>
        obtain ⟨-, rfl⟩ := List.cons.inj hlf
        obtain ⟨blanks', plain', rfl, hblanks', h'⟩ :=
          exists_blanks_append (fun c hc ↦ hblanks c (by simp [hc])) htext hrest
        exact ⟨'\n' :: blanks', plain', rfl, List.forall_mem_cons.2 ⟨by decide, hblanks'⟩, h'⟩
termination_by blanks.length

/-- The plain text begins like the text, or with a line feed. -/
theorem mem_head? {text plain : List Char} (h : PlainEnds text plain) :
    ∀ c ∈ plain.head?, c ∈ text.head? ∨ c = '\n' := by
  cases h with
  | nil => simp
  | keep c h => exact fun _ hc ↦ .inl hc
  | last | drop =>
    rintro _ ⟨rfl⟩
    exact .inr rfl

theorem parts {t : Token} {text plain : List Char} (h : PlainEnds text plain)
    (hparts : Parts t text) : Parts t plain := by
  refine hparts.of_head? fun c hc ↦ ?_
  rcases h.mem_head? c hc with hc | rfl
  · exact .inl hc
  · exact .inr (by decide)

/-- No lexeme holds a carriage return. -/
theorem not_mem_lexeme {t : Token} {lexeme : List Char} (h : Lexeme t lexeme) : '\r' ∉ lexeme := by
  cases h with
  | @symbol c t h =>
    unfold Token.ofSymbol? at h
    split at h <;> cases h <;> decide
  | relation r => cases r <;> decide
  | @literal value h =>
    intro hmem
    simp only [List.mem_cons, List.mem_append, List.not_mem_nil, or_false] at hmem
    rcases hmem with hmem | hmem | hmem
    · exact absurd hmem (by decide)
    · exact absurd (h _ hmem) (by decide)
    · exact absurd hmem (by decide)
  | word h => exact fun hmem ↦ absurd (h _ hmem) (by decide)

/-- A lexeme with blanks before it stays as it is, but for the line ends among the blanks. -/
theorem exists_lexeme_append {t : Token} {blanks lexeme text plain : List Char}
    (hblanks : ∀ c ∈ blanks, Text.isBlank c = true) (hlexeme : Lexeme t lexeme)
    (h : PlainEnds (blanks ++ (lexeme ++ text)) plain) :
    ∃ blanks' plain', plain = blanks' ++ (lexeme ++ plain') ∧
      (∀ c ∈ blanks', Text.isBlank c = true) ∧ PlainEnds text plain' := by
  -- no lexeme begins with a line feed, so a line end lies among the blanks as a whole
  have hhead : (lexeme ++ text).head? ≠ some '\n' := by
    obtain ⟨c, cs, rfl⟩ := List.exists_cons_of_ne_nil hlexeme.ne_nil
    rintro ⟨rfl⟩
    exact absurd (hlexeme.not_isBlank_head '\n' rfl) (by decide)
  obtain ⟨blanks', plain', rfl, hblanks', h'⟩ := h.exists_blanks_append hblanks hhead
  obtain ⟨plain'', rfl, h''⟩ := h'.exists_append (not_mem_lexeme hlexeme)
  exact ⟨blanks', plain'', rfl, hblanks', h''⟩

/-- **Line ends make no difference to tokens.** -/
theorem reads {ts : List Token} {text plain : List Char} (h : PlainEnds text plain)
    (hreads : Reads ts text) : Reads ts plain := by
  induction hreads generalizing plain with
  | @nil blanks hblanks =>
    rw [← List.append_nil blanks] at h
    obtain ⟨blanks', plain', rfl, hblanks', h'⟩ := h.exists_blanks_append hblanks (by simp)
    refine .nil fun c hc ↦ ?_
    rcases List.mem_append.1 hc with hc | hc
    · exact hblanks' c hc
    · -- behind the last blank there is nothing, or the line feed that was added
      cases h' with
      | nil => simp at hc
      | last =>
        rw [List.mem_singleton.1 hc]
        decide
  | @cons blanks lexeme rest t ts hblanks hlexeme hparts hrest ih =>
    obtain ⟨blanks', plain', rfl, hblanks', h'⟩ := h.exists_lexeme_append hblanks hlexeme
    exact .cons hblanks' hlexeme (h'.parts hparts) (ih h')

end PlainEnds

/-! ### Scripts line by line -/

/-- Lines put together again, each with a line feed. -/
def plainText (lines : List String) : List Char :=
  lines.flatMap fun line ↦ line.toList ++ ['\n']

theorem plainEnds_chompText (line : String) {text plain : List Char} (h : PlainEnds text plain) :
    PlainEnds (line.toList ++ '\n' :: text) ((Text.chompText line).toList ++ '\n' :: plain) := by
  unfold Text.chompText
  split
  · next hcr =>
    obtain ⟨front, hfront⟩ := List.getLast?_eq_some_iff.1 hcr
    rw [hfront, String.toList_ofList, List.dropLast_concat, List.append_assoc]
    exact .refl_append front (.drop h)
  · exact .refl_append _ (.keep '\n' h)

/-- **Every text has lines**, and put together again they are the text with plain line ends. -/
theorem exists_textLines (text : List Char) :
    ∃ lines : List String, Text.textLines (Text.utf8 (String.ofList text)) = lines.map some ∧
      PlainEnds text (plainText lines) := by
  induction text using Text.piece_induction '\n' with
  | last piece hpiece =>
    by_cases hne : piece = []
    · subst hne
      exact ⟨[], rfl, .nil⟩
    · refine ⟨[String.ofList piece], ?_, ?_⟩
      · exact Text.textLines_utf8 (by simpa using hpiece) (by simpa using hne)
      · have hlast : PlainEnds (piece ++ []) (piece ++ ['\n']) := .refl_append piece .last
        simpa [plainText] using hlast
  | cons piece rest hpiece ih =>
    obtain ⟨lines, hlines, hplain⟩ := ih
    refine ⟨Text.chompText (String.ofList piece) :: lines, ?_, ?_⟩
    · have hbytes : Text.utf8 (String.ofList (piece ++ '\n' :: rest)) =
          Text.utf8 (String.ofList piece) ++ Text.lf :: Text.utf8 (String.ofList rest) := by
        simp only [Text.utf8_eq_flatMap, String.toList_ofList, List.flatMap_append,
          List.flatMap_cons]
        rfl
      rw [hbytes, Text.textLines_append_lf (by simpa using hpiece), hlines]
      rfl
    · have := plainEnds_chompText (String.ofList piece) hplain
      simpa [plainText] using this

/-- The statement that an event completes. -/
def Event.text? : Event → Option String
  | .statement text => some text
  | _ => none

/-- Whether the event is a statement or a line's end. -/
def Event.Within : Event → Prop
  | .statement _ | .lineEnd _ => True
  | .unreadable _ | .finish _ => False

/-- **Lines come to what their characters come to**, with a line feed after each, and then the
script ends. -/
theorem Splitter.events_map_some {lines : List String} (h : ∀ line ∈ lines, '\n' ∉ line.toList)
    (s : Splitter) :
    ∃ es, s.events (lines.map some) = es ++ [.finish (s.feed (plainText lines)).2.idle] ∧
      es.filterMap Event.text? = (s.feed (plainText lines)).1 ∧ ∀ e ∈ es, e.Within := by
  induction lines generalizing s with
  | nil => exact ⟨[], rfl, rfl, by simp⟩
  | cons line lines ih =>
    obtain ⟨es, hes, htexts, hwithin⟩ :=
      ih (fun line' h' ↦ h line' (List.mem_cons_of_mem line h')) (s.feed (line.toList ++ ['\n'])).2
    have hline := line_eq_feed (h line (by simp)) s
    have hfeed := feed_append s (line.toList ++ ['\n']) (plainText lines)
    rw [← show plainText (line :: lines) = (line.toList ++ ['\n']) ++ plainText lines from rfl]
      at hfeed
    refine ⟨(s.line line).1 ++ es, ?_, ?_, ?_⟩
    · rw [List.map_cons, Splitter.events, hline, hfeed, List.append_assoc, ← hes]
    · have hstatements (texts : List String) :
          (texts.map Event.statement).filterMap Event.text? = texts := by
        simp [List.filterMap_map, Function.comp_def, Event.text?]
      rw [hline, hfeed, List.filterMap_append, List.filterMap_append, hstatements, htexts]
      simp [Event.text?]
    · intro e he
      rw [hline] at he
      simp only [List.mem_append, List.mem_map, List.mem_singleton] at he
      rcases he with (⟨text, -, rfl⟩ | rfl) | he
      · trivial
      · trivial
      · exact hwithin e he

namespace Token

/-- Only blanks read as no tokens. -/
theorem Reads.eq_nil_iff {ts : List Token} {text : List Char} (h : Reads ts text) :
    ts = [] ↔ ∀ c ∈ text, Text.isBlank c = true := by
  cases h with
  | nil hblanks => simpa using hblanks
  | @cons blanks lexeme rest t ts hblanks hlexeme hparts hrest =>
    simp only [reduceCtorEq, false_iff]
    intro hall
    obtain ⟨c, cs, rfl⟩ := List.exists_cons_of_ne_nil hlexeme.ne_nil
    have hblank := hall c (by simp)
    rw [hlexeme.not_isBlank_head c rfl] at hblank
    cases hblank

end Token

/-- **The events of a script that reads as tokens**: its statements read as the tokens up to each
semicolon, and it ends idle if there are none after the last. -/
theorem scriptEvents_of_reads {ts : List Token} {text : String} (h : Token.Reads ts text.toList) :
    ∃ es idle, scriptEvents (Text.utf8 text) = es ++ [.finish idle] ∧
      (es.filterMap Event.text?).map Token.ofText =
        (Token.statements ts).map (fun s ↦ .ok (s ++ [.eof])) ∧
      (∀ e ∈ es, e.Within) ∧ (idle = true ↔ Token.remainder ts = []) := by
  obtain ⟨lines, hlines, hplain⟩ := exists_textLines text.toList
  rw [String.ofList_toList] at hlines
  have hlf : ∀ line ∈ lines, '\n' ∉ line.toList := by
    intro line hline
    have hmem : some line ∈ Text.textLines (Text.utf8 text) := by
      rw [hlines]
      exact List.mem_map_of_mem hline
    exact Text.not_mem_of_mem_textLines hmem
  obtain ⟨es, hes, htexts, hwithin⟩ := Splitter.start.events_map_some hlf
  -- what is fed are the lines put together again, which read as the same tokens
  obtain ⟨texts, rest, hfeed, hread, hrest⟩ := Splitter.feed_reads (hplain.reads h)
  rw [hfeed] at hes htexts
  refine ⟨es, (⟨rest, false⟩ : Splitter).idle, ?_, ?_, hwithin, ?_⟩
  · rw [scriptEvents, hlines, hes]
  · rw [htexts, hread]
  · rw [hrest.eq_nil_iff]
    exact List.all_eq_true

end Tabular
