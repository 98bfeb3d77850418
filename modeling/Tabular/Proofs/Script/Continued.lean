import Mathlib.Data.List.Forall2
import Mathlib.Data.Set.List
import Tabular.Proofs.Results
import Tabular.Proofs.Script.LineEnds

/-!
# Scripts that go on

A script is read on from the lines before. If its front is whole lines, the lines of the whole are
those of the front and those of the rest (`Text.textLines_append`), and so are the events
(`Splitter.events_append`): what the front leaves to the rest is its splitter alone, which stands
outside quotes at every line's end.

Two splitters that wait for different texts can take the same lines alike. `Carried` is what a
relation between such texts needs for it: characters carry it on from a text to the next, and it
tells no blank line from one that is not. Then the events are related one by one (`Carried.events`).

Blanks that are left waiting get in front of the next statement. They make no difference to what it
reads as, so the events from there on are those of a splitter with nothing waiting but for such
blanks (`Splitter.Padded.events`).

There are three users of this. Where sessions come one after another, the front is a script of its
own; where a session stops reading, the front ends within a line (`exists_scriptEvents_opened`); and
where carriage returns are put in, the two splitters take different lines.

## The last line

A text that is not ended by a line feed is a line if it is not empty, and it keeps a carriage return
at its end that a line feed would have taken away. So the line is the text or the text without its
carriage return (`Text.exists_textLines_line`). The statements that are completed in it are the same
(`Splitter.chars_chompText`), and what is left waiting differs by a blank.
-/

namespace Tabular

/-! ### Whole lines -/

namespace Text

/-- The bytes are whole lines: there are none, or they end in a line feed. -/
def WholeLines (bytes : Bytes) : Prop :=
  bytes = [] ∨ bytes.getLast? = some lf

instance (bytes : Bytes) : Decidable (WholeLines bytes) :=
  inferInstanceAs (Decidable (_ ∨ _))

theorem WholeLines.append_lf {front : Bytes} (piece : Bytes) :
    WholeLines (front ++ piece ++ [lf]) :=
  .inr List.getLast?_concat

/-- Behind a whole line there are whole lines exactly if all are whole. -/
theorem wholeLines_line_append_iff {piece rest : Bytes} :
    WholeLines (piece ++ lf :: rest) ↔ WholeLines rest := by
  have hne : piece ++ lf :: rest ≠ [] := by simp
  rw [WholeLines, WholeLines, or_iff_right hne, List.getLast?_append_cons]
  by_cases hrest : rest = []
  · simp [hrest]
  · rw [List.getLast?_cons_of_ne_nil hrest, or_iff_right hrest]

/-- Lines after whole lines are lines of their own. -/
theorem lines_append {front : Bytes} (h : WholeLines front) (rest : Bytes) :
    lines (front ++ rest) = lines front ++ lines rest := by
  induction front using piece_induction lf with
  | last piece hpiece =>
    -- what is not empty and holds no line feed does not end in one
    have hnil : piece = [] := h.resolve_right fun hlast ↦ hpiece (List.mem_of_getLast? hlast)
    rw [hnil]
    rfl
  | cons piece more hpiece ih =>
    rw [List.append_assoc, List.cons_append, lines_append_lf hpiece, lines_append_lf hpiece,
      ih (wholeLines_line_append_iff.1 h), List.cons_append]

theorem textLines_append {front : Bytes} (h : WholeLines front) (rest : Bytes) :
    textLines (front ++ rest) = textLines front ++ textLines rest := by
  rw [textLines, lines_append h, List.map_append]
  rfl

/-- What can follow the text of a line: nothing, or a line feed and then anything at all. -/
def EndsLine (ending : Bytes) : Prop :=
  ending = [] ∨ ending.head? = some lf

instance (ending : Bytes) : Decidable (EndsLine ending) :=
  inferInstanceAs (Decidable (_ ∨ _))

theorem utf8_append (s t : String) : utf8 (s ++ t) = utf8 s ++ utf8 t := by
  rw [utf8_eq_flatMap, utf8_eq_flatMap, utf8_eq_flatMap, String.toList_append, List.flatMap_append]

theorem utf8_append_cr (text : String) : utf8 (text ++ "\r") = utf8 text ++ [cr] :=
  utf8_append text "\r"

/-- A piece is text if it is text without the carriage return at its end. -/
theorem exists_eq_utf8_of_chomp {piece : Bytes} {text : String}
    (h : ofUtf8? (chomp piece) = some text) : ∃ line, piece = utf8 line := by
  rw [ofUtf8?_eq_some_iff] at h
  rcases eq_chomp_append_cr_or piece with hcr | ⟨-, hself⟩
  · exact ⟨text ++ "\r", by rw [hcr, h, utf8_append_cr]⟩
  · exact ⟨text, hself.symm.trans h⟩

/-- **A text without line feeds is the first line**, with a carriage return at its end or without,
if it is not empty or is ended by a line feed. -/
theorem exists_textLines_line {line : String} (hline : '\n' ∉ line.toList) {ending : Bytes}
    (h : EndsLine ending) :
    (line = "" ∧ ending = []) ∨ ∃ line' more, textLines (utf8 line ++ ending) = some line' :: more ∧
      (line' = line ∨ line' = chompText line) ∧ more = textLines ending.tail := by
  rcases h with rfl | h
  · by_cases hne : line = ""
    · exact .inl ⟨hne, rfl⟩
    · rw [List.append_nil, textLines_utf8 hline hne]
      exact .inr ⟨line, [], rfl, .inl rfl, rfl⟩
  · obtain ⟨rest, rfl⟩ := List.head?_eq_some_iff.1 h
    rw [textLines_append_lf hline]
    exact .inr ⟨_, _, rfl, .inr rfl, rfl⟩

/-- Lines that are all text are given by their texts. -/
theorem exists_eq_map_some {lines : List (Option String)} (h : none ∉ lines) :
    ∃ texts : List String, lines = texts.map some := by
  have hrange : ∀ line? ∈ lines, line? ∈ Set.range (some : String → Option String) := by
    intro line? hmem
    cases line? with
    | none => exact absurd hmem h
    | some line => exact ⟨line, rfl⟩
  obtain ⟨texts, rfl⟩ : lines ∈ Set.range (List.map some) := by
    rwa [Set.range_list_map]
  exact ⟨texts, rfl⟩

/-- A list of lines is all text, or text up to a line that is not. -/
theorem eq_map_some_or (lines : List (Option String)) :
    (∃ texts : List String, lines = texts.map some) ∨
      ∃ (texts : List String) (rest : List (Option String)),
        lines = texts.map some ++ none :: rest := by
  by_cases h : none ∈ lines
  · obtain ⟨front, rest, rfl, hfront⟩ := List.eq_append_cons_of_mem h
    obtain ⟨texts, rfl⟩ := exists_eq_map_some hfront
    exact .inr ⟨texts, rest, rfl⟩
  · exact .inl (exists_eq_map_some h)

end Text

namespace Splitter

/-! ### Lines after lines -/

/-- Takes lines, one after the other. -/
def lines (s : Splitter) : List String → List Event × Splitter
  | [] => ([], s)
  | text :: rest =>
    ((s.line text).1 ++ ((s.line text).2.lines rest).1, ((s.line text).2.lines rest).2)

/-- **The events of lines that follow lines**: what the first have left waiting is all that the
others know of them. -/
theorem events_append (s : Splitter) (texts : List String) (rest : List (Option String)) :
    s.events (texts.map some ++ rest) = (s.lines texts).1 ++ (s.lines texts).2.events rest := by
  induction texts generalizing s with
  | nil => rfl
  | cons text texts ih =>
    rw [lines, List.append_assoc, ← ih]
    rfl

theorem within_of_mem_lines {s : Splitter} {texts : List String} {e : Event}
    (h : e ∈ (s.lines texts).1) : e.Within := by
  induction texts generalizing s with
  | nil => cases h
  | cons text texts ih =>
    rcases List.mem_append.1 h with h | h
    · simp only [line, List.mem_append, List.mem_map, List.mem_singleton] at h
      rcases h with ⟨_, -, rfl⟩ | rfl <;> trivial
    · exact ih h

/-- Quotes end with their line. -/
theorem inLiteral_lines {s : Splitter} (h : s.inLiteral = false) (texts : List String) :
    (s.lines texts).2.inLiteral = false := by
  induction texts generalizing s with
  | nil => exact h
  | cons text texts ih => exact ih rfl

end Splitter

/-- A script that is text is the events of its lines, and then its end. -/
theorem scriptEvents_of_lines {script : Text.Bytes} {texts : List String}
    (h : Text.textLines script = texts.map some) :
    scriptEvents script = (Splitter.start.lines texts).1 ++
      [.finish (Splitter.start.lines texts).2.idle] := by
  rw [scriptEvents, h, ← List.append_nil (texts.map some), Splitter.events_append]
  rfl

/-- A script with a line that is no text is the events of the lines before it, and cannot be read
on. -/
theorem scriptEvents_of_bad_line {script : Text.Bytes} {texts : List String}
    {rest : List (Option String)} (h : Text.textLines script = texts.map some ++ none :: rest) :
    scriptEvents script = (Splitter.start.lines texts).1 ++ [.unreadable .notUtf8] := by
  rw [scriptEvents, h, Splitter.events_append]
  rfl

/-- **Every script is the events of some lines and then one more event**: its end, or a line that is
not text. -/
theorem exists_scriptEvents_eq (script : Text.Bytes) : ∃ texts last,
    scriptEvents script = (Splitter.start.lines texts).1 ++ [last] ∧
      (Text.textLines script = texts.map some ∧
          last = .finish (Splitter.start.lines texts).2.idle ∨
        none ∈ Text.textLines script ∧ last = .unreadable .notUtf8) := by
  rcases Text.eq_map_some_or (Text.textLines script) with ⟨texts, h⟩ | ⟨texts, rest, h⟩
  · exact ⟨texts, _, scriptEvents_of_lines h, .inl ⟨h, rfl⟩⟩
  · exact ⟨texts, _, scriptEvents_of_bad_line h, .inr ⟨by simp [h], rfl⟩⟩

namespace Splitter

theorem chars_cons (s : Splitter) (c : Char) (cs : List Char) :
    s.chars (c :: cs) =
      ((s.char c).1.toList ++ ((s.char c).2.chars cs).1, ((s.char c).2.chars cs).2) := by
  rw [chars]
  split <;> next h => rw [h]; rfl

theorem chars_append (s : Splitter) (cs cs' : List Char) :
    s.chars (cs ++ cs') =
      ((s.chars cs).1 ++ ((s.chars cs).2.chars cs').1, ((s.chars cs).2.chars cs').2) := by
  induction cs generalizing s with
  | nil => rfl
  | cons c cs ih => rw [List.cons_append, chars_cons, chars_cons, ih, List.append_assoc]

/-- Only a semicolon completes a statement. -/
theorem chars_singleton_of_ne {c : Char} (h : c ≠ ';') (s : Splitter) : (s.chars [c]).1 = [] := by
  simp [char, h, chars]

/-- Whether a line is ended with a carriage return or not, the same statements are completed. -/
theorem chars_chompText (s : Splitter) (line : String) :
    (s.chars (Text.chompText line).toList).1 = (s.chars line.toList).1 := by
  unfold Text.chompText
  split
  · next hcr =>
    obtain ⟨front, hfront⟩ := List.getLast?_eq_some_iff.1 hcr
    rw [String.toList_ofList, hfront, List.dropLast_concat, chars_append,
      chars_singleton_of_ne (by decide), List.append_nil]
  · rfl

/-! ### A line that is begun -/

/-- The events of lines and of the front of one more. -/
def opened (texts : List String) (front : List Char) : List Event :=
  (start.lines texts).1 ++ ((start.lines texts).2.chars front).1.map .statement

theorem opened_append (texts : List String) (front rest : List Char) :
    opened texts (front ++ rest) = opened texts front ++
      (((start.lines texts).2.chars front).2.chars rest).1.map .statement := by
  rw [opened, opened, chars_append, List.map_append, List.append_assoc]

/-- Between semicolons nothing is added to the events of a line that is begun. -/
theorem opened_concat_of_ne {c : Char} (h : c ≠ ';') (texts : List String) (front : List Char) :
    opened texts (front ++ [c]) = opened texts front := by
  rw [opened_append, chars_singleton_of_ne h, List.map_nil, List.append_nil]

end Splitter

/-- **A script begins with the events of its lines up to any place in one of them.** Nothing else is
completed in a script that stops at the end of this line. -/
theorem exists_scriptEvents_opened {before ending : Text.Bytes} {texts : List String}
    {line : String} (hbefore : Text.WholeLines before)
    (htexts : Text.textLines before = texts.map some) (hline : '\n' ∉ line.toList)
    (hending : Text.EndsLine ending) :
    ∃ more, scriptEvents (before ++ (Text.utf8 line ++ ending)) =
        Splitter.opened texts line.toList ++ more ∧
      (ending.tail = [] → ∀ e ∈ more, e.text? = none) := by
  rw [scriptEvents, Text.textLines_append hbefore, htexts, Splitter.events_append]
  rcases Text.exists_textLines_line hline hending with
    ⟨rfl, rfl⟩ | ⟨line', _, hlines, hline', rfl⟩
  · have hnil : Text.textLines (Text.utf8 "" ++ []) = [] := rfl
    rw [hnil]
    refine ⟨[.finish (Splitter.start.lines texts).2.idle], ?_, by simp [Event.text?]⟩
    show _ = ((Splitter.start.lines texts).1 ++ []) ++ _
    rw [List.append_nil]
    rfl
  · have hchars : ((Splitter.start.lines texts).2.chars line'.toList).1 =
        ((Splitter.start.lines texts).2.chars line.toList).1 := by
      rcases hline' with rfl | rfl
      · rfl
      · exact Splitter.chars_chompText _ line
    rw [hlines, Splitter.opened, ← hchars]
    refine ⟨.lineEnd ((Splitter.start.lines texts).2.line line').2.idle ::
      ((Splitter.start.lines texts).2.line line').2.events (Text.textLines ending.tail), ?_, ?_⟩
    · rw [List.append_assoc, List.append_cons]
      rfl
    · intro hnil
      have hend : Text.textLines ([] : Text.Bytes) = [] := rfl
      rw [hnil, hend]
      simp [Splitter.events, Event.text?]

/-! ### Splitters side by side -/

/-- A relation between texts that wait, which characters carry on, and a relation between events
that comes of it when a semicolon completes the texts. -/
structure Carried (E : Event → Event → Prop) (R : String → String → Prop) : Prop where
  refl (e : Event) : E e e
  empty : R "" ""
  push {text text' : String} (h : R text text') (c : Char) : R (text.push c) (text'.push c)
  statement {text text' : String} (h : R text text') :
    E (.statement (text.push ';')) (.statement (text'.push ';'))
  all_blank {text text' : String} (h : R text text') :
    text.toList.all Text.isBlank = text'.toList.all Text.isBlank

/-- Both splitters stand within quotes or neither does, and what waits in them is related. -/
def Splitter.Beside (R : String → String → Prop) (s s' : Splitter) : Prop :=
  s.inLiteral = s'.inLiteral ∧ R s.pending s'.pending

namespace Carried

variable {E : Event → Event → Prop} {R : String → String → Prop} {s s' : Splitter}

/-- A character is taken alike. -/
theorem char (hcarried : Carried E R) (h : s.Beside R s') (c : Char) :
    List.Forall₂ E ((s.char c).1.toList.map .statement) ((s'.char c).1.toList.map .statement) ∧
      (s.char c).2.Beside R (s'.char c).2 := by
  obtain ⟨hquote, hpending⟩ := h
  unfold Splitter.char
  rw [hquote]
  split
  · next hcut =>
    rw [hcut.1]
    exact ⟨.cons (hcarried.statement hpending) .nil, rfl, hcarried.empty⟩
  · exact ⟨.nil, rfl, hcarried.push hpending c⟩

theorem chars (hcarried : Carried E R) (h : s.Beside R s') (cs : List Char) :
    List.Forall₂ E ((s.chars cs).1.map .statement) ((s'.chars cs).1.map .statement) ∧
      (s.chars cs).2.Beside R (s'.chars cs).2 := by
  induction cs generalizing s s' with
  | nil => exact ⟨.nil, h⟩
  | cons c cs ih =>
    obtain ⟨hstatement, hnext⟩ := hcarried.char h c
    obtain ⟨hrest, hlast⟩ := ih hnext
    rw [Splitter.chars_cons, Splitter.chars_cons, List.map_append, List.map_append]
    exact ⟨List.rel_append hstatement hrest, hlast⟩

/-- Both splitters are idle or neither is, since related texts are blank together. -/
theorem idle_eq (hcarried : Carried E R) (h : s.Beside R s') : s.idle = s'.idle :=
  hcarried.all_blank h.2

/-- Lines are taken alike if the same statements are completed in them, and what then waits is
related. -/
theorem line_of_chars (hcarried : Carried E R) {line line' : String}
    (hstatements : List.Forall₂ E ((s.chars line.toList).1.map .statement)
      ((s'.chars line'.toList).1.map .statement))
    (hend : (s.chars line.toList).2.endLine.Beside R (s'.chars line'.toList).2.endLine) :
    List.Forall₂ E (s.line line).1 (s'.line line').1 ∧
      (s.line line).2.Beside R (s'.line line').2 := by
  refine ⟨List.rel_append hstatements (.cons ?_ .nil), hend⟩
  rw [hcarried.idle_eq hend]
  exact hcarried.refl _

/-- A line is taken alike. -/
theorem line (hcarried : Carried E R) (h : s.Beside R s') (line : String) :
    List.Forall₂ E (s.line line).1 (s'.line line).1 ∧
      (s.line line).2.Beside R (s'.line line).2 := by
  obtain ⟨hstatements, hlast⟩ := hcarried.chars h line.toList
  exact hcarried.line_of_chars hstatements ⟨rfl, hcarried.push hlast.2 '\n'⟩

/-- **Lines that are taken alike one by one come to the same events**, one by one. A line that is
not text stands against another. -/
theorem events {L : String → String → Prop} (hcarried : Carried E R)
    (hline : ∀ {s s' : Splitter} {line line' : String}, L line line' → s.Beside R s' →
      List.Forall₂ E (s.line line).1 (s'.line line').1 ∧
        (s.line line).2.Beside R (s'.line line').2)
    {lines lines' : List (Option String)} (hlines : List.Forall₂ (Option.Rel L) lines lines')
    (h : s.Beside R s') : List.Forall₂ E (s.events lines) (s'.events lines') := by
  induction hlines generalizing s s' with
  | nil =>
    show List.Forall₂ E [.finish s.idle] [.finish s'.idle]
    rw [hcarried.idle_eq h]
    exact .cons (hcarried.refl _) .nil
  | cons hfirst _ ih =>
    cases hfirst with
    | none => exact .cons (hcarried.refl _) .nil
    | some hfirst =>
      obtain ⟨hevents, hnext⟩ := hline hfirst h
      exact List.rel_append hevents (ih hnext)

end Carried

namespace Splitter

/-! ### Blanks left waiting -/

/-- Both splitters wait for the same, but for blanks at the front of the first. -/
def Padded (s s' : Splitter) : Prop :=
  s.inLiteral = s'.inLiteral ∧ ∃ blanks : List Char, (∀ c ∈ blanks, Text.isBlank c = true) ∧
    s.pending = String.ofList blanks ++ s'.pending

/-- An idle splitter outside quotes is at the beginning but for blanks. -/
theorem padded_start {s : Splitter} (hidle : s.idle = true) (hquote : s.inLiteral = false) :
    s.Padded start :=
  ⟨hquote, s.pending.toList, List.all_eq_true.1 hidle, by simp [start]⟩

end Splitter

/-- Both events are the same, but for blanks at the front of the statement of the first. -/
inductive Event.Padded : Event → Event → Prop
  | refl (e : Event) : Padded e e
  | statement {blanks : List Char} (hblanks : ∀ c ∈ blanks, Text.isBlank c = true) (text : String) :
    Padded (.statement (String.ofList blanks ++ text)) (.statement text)

/-- The events are the same, or statements that read as the same tokens, or are refused alike. -/
inductive Event.ReadAlike : Event → Event → Prop
  | refl (e : Event) : ReadAlike e e
  | statement {text text' : String} (h : Token.ofText text = Token.ofText text') :
    ReadAlike (.statement text) (.statement text')

theorem Event.Padded.readAlike {event event' : Event} (h : event.Padded event') :
    event.ReadAlike event' := by
  cases h with
  | refl => exact .refl _
  | statement hblanks text => exact .statement (Token.ofText_blanks_append hblanks text)

/-- Characters come behind the blanks, and a semicolon among them takes the blanks away with it. -/
theorem carried_padded : Carried Event.Padded fun text text' ↦ ∃ blanks : List Char,
    (∀ c ∈ blanks, Text.isBlank c = true) ∧ text = String.ofList blanks ++ text' where
  refl := .refl
  empty := ⟨[], by simp, by simp⟩
  push := by
    rintro _ text ⟨blanks, hblanks, rfl⟩ c
    exact ⟨blanks, hblanks, by rw [String.push_eq_append, String.push_eq_append,
      String.append_assoc]⟩
  statement := by
    rintro _ text ⟨blanks, hblanks, rfl⟩
    rw [String.push_eq_append, String.append_assoc, ← String.push_eq_append]
    exact .statement hblanks _
  all_blank := by
    rintro _ text ⟨blanks, hblanks, rfl⟩
    have hall : blanks.all Text.isBlank = true := List.all_eq_true.2 hblanks
    rw [String.toList_append, List.all_append, String.toList_ofList, hall, Bool.true_and]

/-- **Blanks left waiting get in front of a statement, and make no other difference.** -/
theorem Splitter.Padded.events {s s' : Splitter} (h : s.Padded s') (lines : List (Option String)) :
    List.Forall₂ Event.Padded (s.events lines) (s'.events lines) := by
  refine carried_padded.events ?_ (forall₂_optionRel_refl Eq.refl lines) h
  rintro s s' line _ rfl h
  exact carried_padded.line h line

end Tabular
