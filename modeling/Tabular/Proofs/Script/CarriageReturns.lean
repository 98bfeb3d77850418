import Tabular.Proofs.Script.Continued
import Tabular.Proofs.Token.Halted

/-!
# Carriage returns before line feeds

`Text.crLf` puts a carriage return before every line feed. In the lines of a script this is a
carriage return more at the end of a line that had one before its line feed already, and nothing
else (`Text.rel_textLines_crLf`): the first is taken for a part of the line then.

Such a carriage return waits with the rest of its line, and so gets into statements. There it stands
before a line feed, which is what `PlainEnds` knows about: texts that differ by it read as the same
tokens, and are refused for the same faults (`PlainEnds.ofText_eq`). So a script comes to events
that read alike (`readAlike_scriptEvents_crLf`).

A carriage return alone would be enough to make the texts of statements differ, so the events of the
two scripts are not compared as texts. What is carried from character to character is that the text
waiting in one splitter differs by line ends from that in the other, whatever may come after them
(`WaitsPlainly`): the part about what comes after is needed because a carriage return that waits is
no line end before its line feed has come.
-/

namespace Tabular

/-! ### Line ends and faults -/

namespace PlainEnds

open Token (Faulty Halts Reads)

variable {text plain : List Char}

/-- No value of a literal holds a carriage return. -/
theorem not_mem_value {value : List Char} (h : ∀ c ∈ value, isLiteralChar c = true) :
    '\r' ∉ '\'' :: value := by
  intro hmem
  rcases List.mem_cons.1 hmem with hquote | hmem
  · exact absurd hquote (by decide)
  · exact absurd (h '\r' hmem) (by decide)

/-- A fault stays where it is. A literal that is not closed on its line ends there with a carriage
return or without. -/
theorem faulty {fault : Malformation} {left : List Char} (h : PlainEnds text plain)
    (hfaulty : Faulty text fault left) : ∃ left', Faulty plain fault left' := by
  cases hfaulty with
  | unsupported hblank hlexeme =>
    rcases h.cons_inv with ⟨plain, rfl, -⟩ | ⟨rfl, -⟩
    · exact ⟨_, .unsupported hblank hlexeme plain⟩
    · exact absurd hblank (by decide)
  | loneBang hbang =>
    rcases h.cons_inv with ⟨plain, rfl, h'⟩ | ⟨hbad, -⟩
    · refine ⟨_, .loneBang fun heq ↦ ?_⟩
      rcases h'.mem_head? '=' heq with hc | hlf
      · exact hbang hc
      · exact absurd hlf (by decide)
    · exact absurd hbad (by decide)
  | @commaInLiteral value hvalue rest =>
    rw [← List.cons_append] at h
    obtain ⟨plain, rfl, h'⟩ := h.exists_append (not_mem_value hvalue)
    rcases h'.cons_inv with ⟨plain, rfl, -⟩ | ⟨hbad, -⟩
    · exact ⟨_, .commaInLiteral hvalue plain⟩
    · exact absurd hbad (by decide)
  | @unterminatedLiteral value rest hvalue hrest =>
    rw [← List.cons_append] at h
    obtain ⟨plain, rfl, h'⟩ := h.exists_append (not_mem_value hvalue)
    refine ⟨_, .unterminatedLiteral hvalue fun c hc ↦ ?_⟩
    rcases h'.mem_head? c hc with hc | hlf
    · exact hrest c hc
    · exact .inl hlf

/-- **Line ends make no difference to faults.** -/
theorem halts {fault : Malformation} {left : List Char} (h : PlainEnds text plain)
    (hhalts : Halts text fault left) : ∃ left', Halts plain fault left' := by
  induction hhalts generalizing plain with
  | @here blanks text left fault hblanks hfaulty =>
    -- no fault is found at a line feed, so a line end lies among the blanks as a whole
    have hhead : text.head? ≠ some '\n' := by
      obtain ⟨c, rest, rfl, hblank⟩ := hfaulty.exists_head
      rintro ⟨rfl⟩
      exact absurd hblank (by decide)
    obtain ⟨blanks', plain', rfl, hblanks', h'⟩ := h.exists_blanks_append hblanks hhead
    obtain ⟨left', hfaulty'⟩ := h'.faulty hfaulty
    exact ⟨left', .here hblanks' hfaulty'⟩
  | @cons blanks lexeme rest left t fault hblanks hlexeme hparts _ ih =>
    obtain ⟨blanks', plain', rfl, hblanks', h'⟩ := h.exists_lexeme_append hblanks hlexeme
    obtain ⟨left', hhalts'⟩ := ih h'
    exact ⟨left', .cons hblanks' hlexeme (h'.parts hparts) hhalts'⟩

/-- **Line ends make no difference to what a text reads as**, nor to why it is refused. -/
theorem ofText_eq {s s' : String} (h : PlainEnds s.toList s'.toList) :
    Token.ofText s = Token.ofText s' := by
  cases hscan : Token.scan s.toList with
  | ok ts left =>
    obtain ⟨-, us, rfl, hreads⟩ := Token.reads_of_scan hscan
    rw [Token.ofText_eq_ok_iff.2 ⟨us, rfl, hreads⟩,
      Token.ofText_eq_ok_iff.2 ⟨us, rfl, h.reads hreads⟩]
  | error e left =>
    obtain ⟨fault, rfl, hhalts⟩ := Token.scan_eq_error_iff.1 hscan
    obtain ⟨left', hhalts'⟩ := h.halts hhalts
    rw [Token.ofText, Token.ofText, Scanner.scan, Scanner.scan, Token.rest_ofText,
      Token.rest_ofText, hhalts.scan_eq, hhalts'.scan_eq]

theorem all_isBlank (h : PlainEnds text plain) :
    text.all Text.isBlank = plain.all Text.isBlank := by
  induction h with
  | nil => rfl
  | last => rfl
  | keep c _ ih => rw [List.all_cons, List.all_cons, ih]
  | drop _ ih =>
    rw [List.all_cons, List.all_cons, List.all_cons, ih]
    rfl

end PlainEnds

/-! ### Lines -/

namespace Text

/-- The bytes with a carriage return before every line feed. -/
def crLf (bytes : Bytes) : Bytes :=
  bytes.flatMap fun b ↦ if b = lf then [cr, lf] else [b]

theorem crLf_of_not_mem {piece : Bytes} (h : lf ∉ piece) : crLf piece = piece := by
  induction piece with
  | nil => rfl
  | cons b piece ih =>
    rw [List.mem_cons, not_or] at h
    rw [crLf, List.flatMap_cons, if_neg (Ne.symm h.1)]
    exact congrArg (b :: ·) (ih h.2)

/-- The first line feed has a carriage return put before it, and so have those after it. -/
theorem crLf_append_lf {piece : Bytes} (h : lf ∉ piece) (rest : Bytes) :
    crLf (piece ++ lf :: rest) = piece ++ [cr] ++ lf :: crLf rest := by
  have hpiece := crLf_of_not_mem h
  rw [crLf] at hpiece
  rw [crLf, List.flatMap_append, hpiece, List.flatMap_cons, if_pos rfl, List.append_assoc]
  rfl

/-- The carriage return that is put before a line feed ends the line, so one that was there before
belongs to the line. -/
theorem lines_crLf_append_lf {piece : Bytes} (h : lf ∉ piece) (rest : Bytes) :
    lines (crLf (piece ++ lf :: rest)) = piece :: lines (crLf rest) := by
  have hlf : lf ∉ piece ++ [cr] := by simpa using ⟨h, by decide⟩
  rw [crLf_append_lf h, lines_append_lf hlf, chomp_append_cr]

/-- **Carriage returns that come before no others make no difference to lines.** -/
theorem lines_crLf {content : Bytes} (h : ¬ [cr, lf] <:+: content) :
    lines (crLf content) = lines content := by
  induction content using piece_induction lf with
  | last piece hpiece => rw [crLf_of_not_mem hpiece]
  | cons piece rest hpiece ih =>
    have hcr : piece.getLast? ≠ some cr := by
      intro hcr
      obtain ⟨front, rfl⟩ := List.getLast?_eq_some_iff.1 hcr
      exact h ⟨front, rest, by simp⟩
    have hrest : ¬ [cr, lf] <:+: rest := fun hin ↦
      h (hin.trans ((List.suffix_cons lf rest).trans (List.suffix_append piece _)).isInfix)
    rw [lines_crLf_append_lf hpiece, lines_append_lf hpiece, chomp_eq_self hcr, ih hrest]

/-- The texts are the same, but for a carriage return at the end of the first. -/
def ReturnMore (line line' : String) : Prop :=
  line = line' ∨ line = line' ++ "\r"

theorem ofUtf8?_append_cr (line : Bytes) :
    ofUtf8? (line ++ [cr]) = (ofUtf8? line).map (· ++ "\r") := by
  cases hline : ofUtf8? line with
  | some text =>
    rw [ofUtf8?_eq_some_iff.1 hline, ← utf8_append_cr, ofUtf8?_utf8]
    rfl
  | none =>
    refine Option.eq_none_iff_forall_ne_some.2 fun text htext ↦ ?_
    -- what is text with the carriage return is text without it
    have hchomp := chomp_utf8 text
    rw [← ofUtf8?_eq_some_iff.1 htext, chomp_append_cr] at hchomp
    rw [hchomp, ofUtf8?_utf8] at hline
    cases hline

/-- A line and the same line with its end taken off are the same text but for a carriage return. -/
theorem rel_ofUtf8?_chomp (piece : Bytes) :
    Option.Rel ReturnMore (ofUtf8? piece) (ofUtf8? (chomp piece)) := by
  rcases eq_chomp_append_cr_or piece with hcr | ⟨-, hself⟩
  · rw [congrArg ofUtf8? hcr, ofUtf8?_append_cr]
    cases ofUtf8? (chomp piece) with
    | none => exact .none
    | some text => exact .some (.inr rfl)
  · rw [hself]
    cases ofUtf8? piece with
    | none => exact .none
    | some text => exact .some (.inl rfl)

/-- **The lines are the same, but for carriage returns at their ends**, and as many. -/
theorem rel_textLines_crLf (bytes : Bytes) :
    List.Forall₂ (Option.Rel ReturnMore) (textLines (crLf bytes)) (textLines bytes) := by
  induction bytes using piece_induction lf with
  | last piece hpiece =>
    rw [crLf_of_not_mem hpiece]
    exact forall₂_optionRel_refl (fun _ ↦ .inl rfl) _
  | cons piece rest hpiece ih =>
    rw [textLines, textLines, lines_crLf_append_lf hpiece, lines_append_lf hpiece]
    exact .cons (rel_ofUtf8?_chomp piece) ih

end Text

/-! ### Events -/

/-- The second text waits for what the first does, put plainly: whatever comes after them, if it
differs by line ends, they do with it. -/
def WaitsPlainly (text plain : String) : Prop :=
  ∀ {rest rest' : List Char}, PlainEnds rest rest' →
    PlainEnds (text.toList ++ rest) (plain.toList ++ rest')

/-- A line end is put plainly. -/
theorem WaitsPlainly.push_crLf {text plain : String} (h : WaitsPlainly text plain) :
    WaitsPlainly ((text.push '\r').push '\n') (plain.push '\n') := by
  intro rest rest' hrest
  simpa using h (.drop hrest)

/-- Characters carry it on, and statements that are completed read alike. -/
theorem carried_waitsPlainly : Carried Event.ReadAlike WaitsPlainly where
  refl := .refl
  empty := fun hrest ↦ hrest
  push h c := fun hrest ↦ by simpa using h (.keep c hrest)
  statement h := .statement (PlainEnds.ofText_eq (by simpa using h (.keep ';' .nil)))
  all_blank h := PlainEnds.all_isBlank (by simpa using h .nil)

/-- A carriage return waits like the rest of its line, and neither opens quotes nor closes them. -/
theorem Splitter.chars_append_cr (s : Splitter) (line : String) :
    s.chars (line ++ "\r").toList =
      ((s.chars line.toList).1, ⟨(s.chars line.toList).2.pending.push '\r',
        (s.chars line.toList).2.inLiteral⟩) := by
  have hcr (s : Splitter) : s.chars ['\r'] = ([], ⟨s.pending.push '\r', s.inLiteral⟩) := by
    simp [chars, char]
  rw [String.toList_append, chars_append, show "\r".toList = ['\r'] from rfl, hcr, List.append_nil]

/-- Lines are taken alike if one has a carriage return more at its end. -/
theorem readAlike_line {s s' : Splitter} {line line' : String} (hline : Text.ReturnMore line line')
    (h : s.Beside WaitsPlainly s') :
    List.Forall₂ Event.ReadAlike (s.line line).1 (s'.line line').1 ∧
      (s.line line).2.Beside WaitsPlainly (s'.line line').2 := by
  rcases hline with rfl | rfl
  · exact carried_waitsPlainly.line h line
  · obtain ⟨hstatements, -, hpending⟩ := carried_waitsPlainly.chars h line'.toList
    refine carried_waitsPlainly.line_of_chars ?_ ?_
    · rw [Splitter.chars_append_cr]
      exact hstatements
    · rw [Splitter.chars_append_cr]
      exact ⟨rfl, hpending.push_crLf⟩

/-- **Scripts with carriage returns before their line feeds come to events that read alike.** -/
theorem readAlike_scriptEvents_crLf (script : Text.Bytes) :
    List.Forall₂ Event.ReadAlike (scriptEvents (Text.crLf script)) (scriptEvents script) :=
  carried_waitsPlainly.events readAlike_line (Text.rel_textLines_crLf script)
    ⟨rfl, carried_waitsPlainly.empty⟩

end Tabular
