import Tabular.Proofs.Token.Lexeme

/-!
# Where reading stops

A text that does not read as tokens is read up to a fault. `Token.Faulty` says what is at fault at
the front of a text, and how much of it is left then; `Token.Halts` says the same of a text with
lexemes and blanks before the fault. These are all the ways in which reading can stop
(`Token.scan_eq_error_iff`), as `Token.Reads` is the one way in which it does not.

What is left after a fault in a literal begins behind its opening quote
(`Token.Halts.exists_quote`). After any other fault the faulty character is left, so it is at fault
again (`Token.Halts.again`).

Both inductive types are read off from left to right, as the scanner goes, and are what proofs about
faulty texts go by: where a fault is found again after carriage returns were put in, or after the
scanner was asked once more, there is a case for each kind of fault.

## What is left

* After `unsupported` and `loneBang`: the text from the character at fault on.
* After `commaInLiteral`: the text from the comma on. The quote before it is not left, so what is
  read next are lexemes of their own.
* After `unterminatedLiteral`: the text from the end of the line on, or none.
-/

namespace Tabular

/-- The character that reading stays on after a fault: one that no lexeme begins with, or an
exclamation mark. After a fault in a literal there is none. -/
def Malformation.stuckOn? : Malformation → Option Char
  | unsupported c => some c
  | loneBang => some '!'
  | _ => none

namespace Token

/-- Whether a lexeme can begin with the character. -/
def beginsLexeme (c : Char) : Bool :=
  (ofSymbol? c).isSome || isRelationStart c || c == '\'' || isWordChar c

/-- The front of a text is no lexeme: what is wrong with it, and what of the text is left. -/
inductive Faulty : List Char → Malformation → List Char → Prop
  | unsupported {c : Char} (hblank : Text.isBlank c = false) (hlexeme : beginsLexeme c = false)
    (rest : List Char) : Faulty (c :: rest) (.unsupported c) (c :: rest)
  | loneBang {rest : List Char} (h : rest.head? ≠ some '=') :
    Faulty ('!' :: rest) .loneBang ('!' :: rest)
  | commaInLiteral {value : List Char} (h : ∀ c ∈ value, isLiteralChar c = true)
    (rest : List Char) : Faulty ('\'' :: (value ++ ',' :: rest)) .commaInLiteral (',' :: rest)
  | unterminatedLiteral {value rest : List Char} (h : ∀ c ∈ value, isLiteralChar c = true)
    (hrest : ∀ c ∈ rest.head?, c = '\n' ∨ c = '\r') :
    Faulty ('\'' :: (value ++ rest)) .unterminatedLiteral rest

/-- A text has lexemes up to a fault, each parted from what follows, and blanks anywhere between. -/
inductive Halts : List Char → Malformation → List Char → Prop
  | here {blanks text left : List Char} {fault : Malformation}
    (hblanks : ∀ c ∈ blanks, Text.isBlank c = true) (h : Faulty text fault left) :
    Halts (blanks ++ text) fault left
  | cons {blanks lexeme rest left : List Char} {t : Token} {fault : Malformation}
    (hblanks : ∀ c ∈ blanks, Text.isBlank c = true) (hlexeme : Lexeme t lexeme)
    (hparts : Parts t rest) (hrest : Halts rest fault left) :
    Halts (blanks ++ (lexeme ++ rest)) fault left

variable {text left : List Char} {fault : Malformation}

/-! ### Faults at the front -/

/-- No fault is found at a blank. -/
theorem Faulty.exists_head (h : Faulty text fault left) :
    ∃ c rest, text = c :: rest ∧ Text.isBlank c = false := by
  cases h with
  | unsupported hblank => exact ⟨_, _, rfl, hblank⟩
  | loneBang | commaInLiteral | unterminatedLiteral => exact ⟨_, _, rfl, by decide⟩

/-- A literal is read up to the first character that it cannot hold. -/
theorem dropWhile_literal {value : List Char} (hvalue : ∀ c ∈ value, isLiteralChar c = true)
    (hleft : ∀ c ∈ left.head?, isLiteralChar c = false) :
    (value ++ left).dropWhile isLiteralChar = left := by
  rw [List.dropWhile_append_of_pos hvalue]
  cases left with
  | nil => rfl
  | cons c rest => exact List.dropWhile_cons_of_neg (by simp [hleft c rfl])

theorem Faulty.next_eq (h : Faulty text fault left) :
    next text = .error (.malformed fault) left := by
  cases h with
  | @unsupported c _ hlexeme rest =>
    simp only [beginsLexeme, Bool.or_eq_false_iff, Option.isSome_eq_false_iff,
      Option.isNone_iff_eq_none, beq_eq_false_iff_ne] at hlexeme
    obtain ⟨⟨⟨hsymbol, hrelation⟩, hquote⟩, hword⟩ := hlexeme
    simp [next, hsymbol, hrelation, hquote, hword]
  | loneBang h => simp [next, ofSymbol?, isRelationStart, scanRelation, h]
  | commaInLiteral hvalue rest =>
    have hdrop : (_ ++ ',' :: rest).dropWhile isLiteralChar = ',' :: rest :=
      dropWhile_literal hvalue (by simp [isLiteralChar])
    simp [next, ofSymbol?, isRelationStart, scanLiteral, hdrop]
  | @unterminatedLiteral value rest hvalue hrest =>
    have hstop : ∀ c ∈ left.head?, isLiteralChar c = false := by
      intro c hc
      rcases hrest c hc with rfl | rfl <;> decide
    have hdrop := dropWhile_literal hvalue hstop
    show scanLiteral (value ++ left) = _
    rw [scanLiteral, hdrop]
    split
    · next more =>
      rcases hrest '\'' rfl with h | h <;> cases h
    · next more =>
      rcases hrest ',' rfl with h | h <;> cases h
    · rfl

/-- Reading stays on the character that is at fault. -/
theorem Faulty.eq_left {c : Char} (h : Faulty text fault left) (hc : fault.stuckOn? = some c) :
    text = left ∧ left.head? = some c := by
  cases h with
  | unsupported | loneBang => exact ⟨rfl, hc⟩
  | commaInLiteral | unterminatedLiteral => cases hc

/-- Of a literal the quote and the value up to the fault have been read. -/
theorem Faulty.exists_quote (h : Faulty text fault left) (hnone : fault.stuckOn? = none) :
    ∃ value, text = '\'' :: (value ++ left) ∧ ∀ c ∈ value, isLiteralChar c = true := by
  cases h with
  | unsupported | loneBang => cases hnone
  | commaInLiteral hvalue | unterminatedLiteral hvalue => exact ⟨_, rfl, hvalue⟩

theorem Faulty.stuck_or_in_literal (h : Faulty text fault left) :
    (∃ c, fault.stuckOn? = some c) ∨ fault = .commaInLiteral ∨ fault = .unterminatedLiteral := by
  cases h with
  | unsupported | loneBang => exact .inl ⟨_, rfl⟩
  | commaInLiteral => exact .inr (.inl rfl)
  | unterminatedLiteral => exact .inr (.inr rfl)

/-- A relation is refused for a lone exclamation mark. -/
theorem faulty_of_scanRelation {c : Char} {rest : List Char} {e : Failure}
    (h : scanRelation c rest = .error e left) :
    ∃ fault, e = .malformed fault ∧ Faulty (c :: rest) fault left := by
  unfold scanRelation at h
  split at h
  · cases h
  · next hjoined =>
    split at h <;> cases h
    next hbang =>
    subst hbang
    exact ⟨_, rfl, .loneBang fun heq ↦ hjoined ⟨by decide, heq⟩⟩

/-- A literal is refused for a comma, or for having no end on its line. -/
theorem faulty_of_scanLiteral {rest : List Char} {e : Failure}
    (h : scanLiteral rest = .error e left) :
    ∃ fault, e = .malformed fault ∧ Faulty ('\'' :: rest) fault left := by
  have hvalue : ∀ c ∈ rest.takeWhile isLiteralChar, isLiteralChar c = true :=
    fun c hc ↦ List.mem_takeWhile_imp hc
  have hsplit := List.takeWhile_append_dropWhile (p := isLiteralChar) (l := rest)
  unfold scanLiteral at h
  split at h
  · cases h
  · next more hdrop =>
    cases h
    rw [hdrop] at hsplit
    rw [← hsplit]
    exact ⟨_, rfl, .commaInLiteral hvalue more⟩
  · next hquote hcomma =>
    cases h
    -- a character that a literal cannot hold, and neither a quote nor a comma
    have hbreak : ∀ c ∈ (rest.dropWhile isLiteralChar).head?, c = '\n' ∨ c = '\r' := by
      intro c hc
      obtain ⟨more, hmore⟩ := List.head?_eq_some_iff.1 hc
      have hstop : isLiteralChar c = false := by
        have hhead := List.head?_dropWhile_not isLiteralChar rest
        rwa [hmore] at hhead
      have hne : c ≠ '\'' ∧ c ≠ ',' :=
        ⟨fun heq ↦ hquote more (heq ▸ hmore), fun heq ↦ hcomma more (heq ▸ hmore)⟩
      simpa [isLiteralChar, hne, Decidable.or_iff_not_imp_left] using hstop
    have hfaulty := Faulty.unterminatedLiteral hvalue hbreak
    rw [hsplit] at hfaulty
    exact ⟨_, rfl, hfaulty⟩

/-- **Reading a lexeme fails exactly if the front of the text is faulty.** -/
theorem next_eq_error_iff {c : Char} {rest : List Char} {e : Failure}
    (hblank : Text.isBlank c = false) : next (c :: rest) = .error e left ↔
      ∃ fault, e = .malformed fault ∧ Faulty (c :: rest) fault left := by
  refine ⟨fun h ↦ ?_, ?_⟩
  · simp only [next] at h
    split at h
    · cases h
    · next hsymbol =>
      split at h
      · exact faulty_of_scanRelation h
      · next hrelation =>
        split at h
        · next hquote => exact hquote ▸ faulty_of_scanLiteral h
        · next hquote =>
          split at h <;> cases h
          next hword =>
          exact ⟨_, rfl, .unsupported hblank (by simp [beginsLexeme, *]) rest⟩
  · rintro ⟨fault, rfl, h⟩
    exact h.next_eq

/-! ### Faults anywhere -/

theorem Halts.scan_eq (h : Halts text fault left) :
    scan text = .error (.malformed fault) left := by
  induction h with
  | @here blanks text left fault hblanks h =>
    obtain ⟨c, rest, rfl, hblank⟩ := h.exists_head
    refine scan_of_next_eq_error ?_ h.next_eq
    rw [List.dropWhile_append_of_pos hblanks]
    exact List.dropWhile_cons_of_neg (by simp [hblank])
  | @cons blanks lexeme rest left t fault hblanks hlexeme hparts _ ih =>
    have hnext := next_eq_ok_iff.2 ⟨lexeme, rfl, hlexeme, hparts⟩
    rw [scan_of_next (hlexeme.dropWhile_isBlank hblanks rest) hnext, ih]

/-- **Reading a text fails exactly if it halts at a fault**, and leaves what is left there. -/
theorem scan_eq_error_iff {e : Failure} :
    scan text = .error e left ↔ ∃ fault, e = .malformed fault ∧ Halts text fault left := by
  refine ⟨fun h ↦ ?_, ?_⟩
  · have hsplit (text : List Char) :
        text = text.takeWhile Text.isBlank ++ text.dropWhile Text.isBlank :=
      List.takeWhile_append_dropWhile.symm
    have hblanks (text : List Char) : ∀ c ∈ text.takeWhile Text.isBlank, Text.isBlank c = true :=
      fun c hc ↦ List.mem_takeWhile_imp hc
    fun_induction scan text with
    | case1 => cases h
    | case2 text c rest hdrop e' left' hnext =>
      cases h
      have hhead : Text.isBlank c = false := by
        have hnot := List.head?_dropWhile_not Text.isBlank text
        rwa [hdrop] at hnot
      obtain ⟨fault, rfl, hfaulty⟩ := (next_eq_error_iff hhead).1 hnext
      rw [hsplit text, hdrop]
      exact ⟨fault, rfl, .here (hblanks text) hfaulty⟩
    | case3 => cases h
    | case4 text c rest hdrop t more hnext e' stop hscan ih =>
      cases h
      obtain ⟨fault, rfl, hhalts⟩ := ih hscan
      obtain ⟨lexeme, hfront, hlexeme, hparts⟩ := next_eq_ok_iff.1 hnext
      rw [hsplit text, hdrop, hfront]
      exact ⟨fault, rfl, .cons (hblanks text) hlexeme hparts hhalts⟩
  · rintro ⟨fault, rfl, h⟩
    exact h.scan_eq

/-- What is before a fault reads as tokens. -/
theorem Halts.exists_faulty (h : Halts text fault left) :
    ∃ front text', text = front ++ text' ∧ (∃ ts, Reads ts front) ∧ Faulty text' fault left := by
  induction h with
  | here hblanks h => exact ⟨_, _, rfl, ⟨[], .nil hblanks⟩, h⟩
  | @cons blanks lexeme rest left t fault hblanks hlexeme hparts _ ih =>
    obtain ⟨front, text', rfl, ⟨ts, hreads⟩, hfaulty⟩ := ih
    have hfront : Parts t front := hparts.of_head? fun c hc ↦ by
      rw [List.head?_append, Option.mem_def.1 hc]
      exact .inl rfl
    have hreads' := Reads.cons hblanks hlexeme hfront hreads
    exact ⟨blanks ++ (lexeme ++ front), text', by simp, ⟨t :: ts, hreads'⟩, hfaulty⟩

/-- **A fault stays a fault**: what is left when reading stays on a character halts there too. -/
theorem Halts.again {c : Char} (h : Halts text fault left) (hc : fault.stuckOn? = some c) :
    Halts left fault left ∧ left.head? = some c := by
  obtain ⟨front, text', -, -, hfaulty⟩ := h.exists_faulty
  obtain ⟨rfl, hhead⟩ := hfaulty.eq_left hc
  have hhere : Halts ([] ++ text') fault text' := .here (by simp) hfaulty
  exact ⟨hhere, hhead⟩

/-- **A fault in a literal leaves the literal's quote behind.** -/
theorem Halts.exists_quote (h : Halts text fault left) (hnone : fault.stuckOn? = none) :
    ∃ front value, text = front ++ '\'' :: (value ++ left) ∧ (∃ ts, Reads ts front) ∧
      ∀ c ∈ value, isLiteralChar c = true := by
  obtain ⟨front, text', rfl, hreads, hfaulty⟩ := h.exists_faulty
  obtain ⟨value, rfl, hvalue⟩ := hfaulty.exists_quote hnone
  exact ⟨front, value, rfl, hreads, hvalue⟩

theorem Halts.suffix (h : Halts text fault left) : left <:+ text := by
  cases hstuck : fault.stuckOn? with
  | some c =>
    obtain ⟨front, text', rfl, -, hfaulty⟩ := h.exists_faulty
    exact ⟨front, by rw [(hfaulty.eq_left hstuck).1]⟩
  | none =>
    obtain ⟨front, value, rfl, -⟩ := h.exists_quote hstuck
    exact ⟨front ++ '\'' :: value, by simp⟩

end Token

end Tabular
