import Tabular.Proofs.Token.Lexeme

/-!
# Reading by position

A scanner can also be moved one character at a time: ask for the character at its position, which
there must be, and go on. `Scanner.readTokens` reads a text in this way and would miss a character
wherever it forgets to ask whether the text is at its end. It never does: from every position up to
the end it comes to the same tokens, the same error and the same position as `Token.scan` does on
what is left of the text (`Scanner.readTokens_eq_scan`), which has no positions to get wrong.

A scanner that stands within its text is told by what is left of it. So each reader is followed
along the texts that can be left, the ends of the whole one.

For each move there is a lemma that says what it comes to on a scanner of which a given text is left
(`Scanner.leave`), with the name of the move and `_leave`. Such a lemma needs that there is a
character only where the move asks for one. The two loops and the reading of all tokens are by
recursion on the characters still to come, and `Scanner.left_lt_of_readToken` is why a token counts
as progress.

## Why no character is missed

* `Scanner.readWhile` and `Scanner.readLiteralChars` ask whether the text is at its end before each
  character.
* `Scanner.readRelation` looks at the character after the first only if there is one
  (`Scanner.peek?`).
* `Scanner.readLiteral` asks once more before it looks for the closing quote, since the literal may
  have ended with the text.
* `Scanner.readToken` is called behind blanks and only if something is left.
-/

namespace Tabular

namespace Scanner

/-! ### The moves -/

/-- A computation that reads at the position of a scanner and moves it. -/
abbrev Walk := EStateM Failure Scanner

/-- The whole text has been read. -/
def AtEnd (s : Scanner) : Prop :=
  s.text.length ≤ s.position

instance : DecidablePred AtEnd :=
  fun s ↦ inferInstanceAs (Decidable (s.text.length ≤ s.position))

/-- The scanner one character further on. -/
def succ (s : Scanner) : Scanner :=
  { s with position := s.position + 1 }

/-- The character at the position, which there must be. -/
def current : Walk Char := fun s ↦
  match s.text[s.position]? with
  | some c => .ok c s
  | none => .error .outOfRange s

/-- The character after that, if there is one. -/
def peek? : Walk (Option Char) := fun s ↦
  .ok s.text[s.position + 1]? s

/-- Moves on by one character. -/
def advance : Walk Unit := fun s ↦
  .ok () s.succ

/-- Moves on while there are characters of a kind, and gives them. -/
def readWhile (p : Char → Bool) : Walk (List Char) := fun s ↦
  if s.AtEnd then .ok [] s
  else
    match current s with
    | .error e s' => .error e s'
    | .ok c _ =>
      if p c then
        match readWhile p s.succ with
        | .ok cs s' => .ok (c :: cs) s'
        | .error e s' => .error e s'
      else .ok [] s
termination_by s => s.text.length - s.position
decreasing_by
  unfold AtEnd at *
  simp only [succ]
  omega

/-- Reads a relation, at its first character. -/
def readRelation : Walk Token := do
  let first ← current
  if first ≠ '=' ∧ (← peek?) = some '=' then
    advance
    advance
    return .relation (String.ofList [first, '='])
  else if first = '!' then throw (.malformed .loneBang)
  else
    advance
    return .relation (String.singleton first)

/-- Reads the characters of a literal up to its closing quote, the end of its line or the end of the
text. -/
def readLiteralChars : Walk (List Char) := fun s ↦
  if s.AtEnd then .ok [] s
  else
    match current s with
    | .error e s' => .error e s'
    | .ok c _ =>
      if c = '\'' ∨ c = '\n' ∨ c = '\r' then .ok [] s
      else if c = ',' then .error (.malformed .commaInLiteral) s
      else
        match readLiteralChars s.succ with
        | .ok cs s' => .ok (c :: cs) s'
        | .error e s' => .error e s'
termination_by s => s.text.length - s.position
decreasing_by
  unfold AtEnd at *
  simp only [succ]
  omega

/-- Reads a literal, at its opening quote. -/
def readLiteral : Walk Token := do
  advance
  let value ← readLiteralChars
  if (← get).AtEnd then throw (.malformed .unterminatedLiteral)
  else if (← current) ≠ '\'' then throw (.malformed .unterminatedLiteral)
  else
    advance
    return .literal (String.ofList value)

/-- Reads the token at the position, where there must be a character. -/
def readToken : Walk Token := do
  let c ← current
  match Token.ofSymbol? c with
  | some t =>
    advance
    return t
  | none =>
    if isRelationStart c then readRelation
    else if c = '\'' then readLiteral
    else if isWordChar c then return Token.ofWord (← readWhile isWordChar)
    else throw (.malformed (.unsupported c))

/-! ### What they come to -/

/-- The outcome of reading what is left of a text, as the outcome of moving a scanner over it. -/
def reached {α : Type} (s : Scanner) : Scan α → EStateM.Result Failure Scanner α
  | .ok a left => .ok a (s.leave left)
  | .error e left => .error e (s.leave left)

variable {s : Scanner} {c : Char} {left rest : List Char}

/-- A scanner within its text is told by what is left. -/
theorem leave_rest (h : s.position ≤ s.text.length) : s.leave s.rest = s := by
  have hposition : s.text.length - (s.text.drop s.position).length = s.position := by
    rw [List.length_drop]
    omega
  rw [leave, rest, hposition]

/-- A scanner that leaves an end of its text has that end left. -/
theorem rest_leave (h : left <:+ s.text) : (s.leave left).rest = left :=
  (List.suffix_iff_eq_drop.1 h).symm

theorem atEnd_leave_iff (h : left <:+ s.text) : (s.leave left).AtEnd ↔ left = [] := by
  have hlength := h.length_le
  show s.text.length ≤ s.text.length - left.length ↔ _
  rw [← List.length_eq_zero_iff]
  omega

theorem succ_leave (h : c :: rest <:+ s.text) : (s.leave (c :: rest)).succ = s.leave rest := by
  have hlength := h.length_le
  rw [List.length_cons] at hlength
  have hposition : s.text.length - (rest.length + 1) + 1 = s.text.length - rest.length := by omega
  rw [succ, leave, leave, List.length_cons, hposition]

/-- The characters from the position on are those that are left. -/
theorem getElem?_leave (h : left <:+ s.text) (k : Nat) :
    s.text[(s.leave left).position + k]? = left[k]? := by
  rw [← List.getElem?_drop]
  exact congrArg (·[k]?) (rest_leave h)

/-- The first character that is left is the one at the position. -/
theorem current_leave (h : c :: rest <:+ s.text) :
    current (s.leave (c :: rest)) = .ok c (s.leave (c :: rest)) := by
  have hat : s.text[(s.leave (c :: rest)).position]? = some c := getElem?_leave h 0
  rw [current]
  show (match s.text[(s.leave (c :: rest)).position]? with
    | some c => _
    | none => _) = _
  rw [hat]

/-- Characters of a kind are read up to the first of another kind, or to the end. -/
theorem readWhile_leave (p : Char → Bool) (h : left <:+ s.text) :
    readWhile p (s.leave left) = .ok (left.takeWhile p) (s.leave (left.dropWhile p)) := by
  induction left with
  | nil => rw [readWhile, if_pos ((atEnd_leave_iff h).2 rfl)]; rfl
  | cons c rest ih =>
    rw [readWhile, if_neg (mt (atEnd_leave_iff h).1 (List.cons_ne_nil c rest)), current_leave h,
      succ_leave h, ih ((List.suffix_cons c rest).trans h), List.takeWhile_cons,
      List.dropWhile_cons]
    dsimp only
    split
    · rfl
    · rfl

theorem bind_of_eq_ok {α β : Type} {x : Walk α} {f : α → Walk β} {s s' : Scanner} {a : α}
    (h : x s = .ok a s') : (x >>= f) s = f a s' := by
  show EStateM.bind x f s = _
  rw [EStateM.bind, h]

theorem bind_of_eq_error {α β : Type} {x : Walk α} {f : α → Walk β} {s s' : Scanner} {e : Failure}
    (h : x s = .error e s') : (x >>= f) s = .error e s' := by
  show EStateM.bind x f s = _
  rw [EStateM.bind, h]

/-- The first character is there to be asked for. -/
theorem current_bind {α : Type} (h : c :: rest <:+ s.text) (f : Char → Walk α) :
    (current >>= f) (s.leave (c :: rest)) = f c (s.leave (c :: rest)) :=
  bind_of_eq_ok (current_leave h)

theorem advance_bind {α : Type} (h : c :: rest <:+ s.text) (f : Unit → Walk α) :
    (advance >>= f) (s.leave (c :: rest)) = f () (s.leave rest) :=
  bind_of_eq_ok (by rw [advance, succ_leave h])

theorem peek?_bind {α : Type} (h : c :: rest <:+ s.text) (f : Option Char → Walk α) :
    (peek? >>= f) (s.leave (c :: rest)) = f rest.head? (s.leave (c :: rest)) := by
  refine bind_of_eq_ok ?_
  have hat : s.text[(s.leave (c :: rest)).position + 1]? = rest[0]? := getElem?_leave h 1
  rw [peek?, List.head?_eq_getElem?, ← hat]
  rfl

theorem readRelation_leave (h : c :: rest <:+ s.text) :
    readRelation (s.leave (c :: rest)) = s.reached (Token.scanRelation c rest) := by
  rw [readRelation, current_bind h, peek?_bind h, Token.scanRelation]
  by_cases hjoined : c ≠ '=' ∧ rest.head? = some '='
  · obtain ⟨more, rfl⟩ := List.head?_eq_some_iff.1 hjoined.2
    rw [if_pos hjoined, if_pos hjoined, advance_bind h,
      advance_bind ((List.suffix_cons c _).trans h)]
    rfl
  · rw [if_neg hjoined, if_neg hjoined]
    by_cases hbang : c = '!'
    · rw [if_pos hbang, if_pos hbang]
      rfl
    · rw [if_neg hbang, if_neg hbang, advance_bind h]
      rfl

/-- A literal's characters end at the first that a literal cannot hold, and a comma is refused at
once. -/
theorem readLiteralChars_leave (h : left <:+ s.text) :
    readLiteralChars (s.leave left) =
      if (left.dropWhile isLiteralChar).head? = some ',' then
        .error (.malformed .commaInLiteral) (s.leave (left.dropWhile isLiteralChar))
      else .ok (left.takeWhile isLiteralChar) (s.leave (left.dropWhile isLiteralChar)) := by
  induction left with
  | nil => rw [readLiteralChars, if_pos ((atEnd_leave_iff h).2 rfl)]; rfl
  | cons c rest ih =>
    rw [readLiteralChars, if_neg (mt (atEnd_leave_iff h).1 (List.cons_ne_nil c rest)),
      current_leave h, succ_leave h, ih ((List.suffix_cons c rest).trans h)]
    dsimp only
    by_cases hstop : c = '\'' ∨ c = '\n' ∨ c = '\r'
    · have hchar : isLiteralChar c = false ∧ some c ≠ some ',' := by
        rcases hstop with rfl | rfl | rfl <;> decide
      rw [if_pos hstop, List.takeWhile_cons_of_neg (by simp [hchar.1]),
        List.dropWhile_cons_of_neg (by simp [hchar.1]), List.head?_cons, if_neg hchar.2]
    · rw [if_neg hstop]
      by_cases hcomma : c = ','
      · subst hcomma
        rfl
      · have hchar : isLiteralChar c = true := by
          rw [not_or, not_or] at hstop
          simp [isLiteralChar, hstop, hcomma]
        rw [if_neg hcomma, List.takeWhile_cons_of_pos hchar, List.dropWhile_cons_of_pos hchar]
        by_cases hfound : (rest.dropWhile isLiteralChar).head? = some ','
        · rw [if_pos hfound, if_pos hfound]
        · rw [if_neg hfound, if_neg hfound]

/-- A literal is read by position as it is read from what is left. Its closing quote is looked for
only after it has been asked whether the text is at its end. -/
theorem readLiteral_leave (h : c :: rest <:+ s.text) :
    readLiteral (s.leave (c :: rest)) = s.reached (Token.scanLiteral rest) := by
  have hrest : rest <:+ s.text := (List.suffix_cons c rest).trans h
  have hstop : rest.dropWhile isLiteralChar <:+ s.text :=
    (List.dropWhile_suffix isLiteralChar).trans hrest
  have hchars := readLiteralChars_leave hrest
  rw [readLiteral, advance_bind h, Token.scanLiteral]
  cases hdrop : rest.dropWhile isLiteralChar with
  | nil =>
    rw [hdrop] at hchars hstop
    rw [bind_of_eq_ok hchars]
    show (if (s.leave []).AtEnd then _ else _ : Walk Token) (s.leave []) = _
    rw [if_pos ((atEnd_leave_iff hstop).2 rfl)]
    rfl
  | cons d more =>
    rw [hdrop] at hchars hstop
    by_cases hcomma : d = ','
    · subst hcomma
      rw [bind_of_eq_error hchars]
      rfl
    · rw [List.head?_cons, if_neg (mt Option.some.inj hcomma)] at hchars
      rw [bind_of_eq_ok hchars]
      show (if (s.leave (d :: more)).AtEnd then _ else _ : Walk Token) (s.leave (d :: more)) = _
      rw [if_neg (mt (atEnd_leave_iff hstop).1 (List.cons_ne_nil d more)), current_bind hstop]
      by_cases hquote : d = '\''
      · subst hquote
        rw [if_neg (not_not_intro rfl), advance_bind hstop]
        rfl
      · rw [if_pos hquote]
        split
        · next heq => exact absurd (List.cons.inj heq).1 hquote
        · next heq => exact absurd (List.cons.inj heq).1 hcomma
        · rfl

/-- **Reading one token** misses no character where there is one. -/
theorem readToken_leave (h : left <:+ s.text) (hne : left ≠ []) :
    readToken (s.leave left) = s.reached (Token.next left) := by
  obtain ⟨c, rest, rfl⟩ := List.exists_cons_of_ne_nil hne
  rw [readToken, current_bind h, Token.next]
  cases Token.ofSymbol? c with
  | some t =>
    dsimp only
    rw [advance_bind h]
    rfl
  | none =>
    dsimp only
    split
    · exact readRelation_leave h
    · split
      · exact readLiteral_leave h
      · split
        · next hword =>
          rw [bind_of_eq_ok (readWhile_leave _ h), List.takeWhile_cons, List.dropWhile_cons,
            if_pos hword, if_pos hword]
          rfl
        · rfl

/-! ### All tokens -/

/-- A token after blanks makes progress. -/
theorem left_lt_of_readToken {s' s'' : Scanner} {cs : List Char} {t : Token} (hend : ¬ s.AtEnd)
    (hblanks : readWhile Text.isBlank s = .ok cs s') (hend' : ¬ s'.AtEnd)
    (htoken : readToken s' = .ok t s'') :
    s''.text.length - s''.position < s.text.length - s.position := by
  have hposition : s.position < s.text.length := Nat.lt_of_not_le hend
  have hrest : s.rest <:+ s.text := List.drop_suffix s.position s.text
  have hlength : s.rest.length = s.text.length - s.position := List.length_drop
  have hdrop := (List.dropWhile_suffix Text.isBlank (l := s.rest)).length_le
  have hsuffix : s.rest.dropWhile Text.isBlank <:+ s.text :=
    (List.dropWhile_suffix Text.isBlank).trans hrest
  rw [← leave_rest (Nat.le_of_lt hposition), readWhile_leave _ hrest] at hblanks
  cases hblanks
  have hne : s.rest.dropWhile Text.isBlank ≠ [] := mt (atEnd_leave_iff hsuffix).2 hend'
  rw [readToken_leave hsuffix hne] at htoken
  cases hnext : Token.next (s.rest.dropWhile Text.isBlank) with
  | error e left =>
    rw [hnext] at htoken
    cases htoken
  | ok t' left =>
    rw [hnext] at htoken
    cases htoken
    have hlt := Token.length_lt_of_next hnext
    show s.text.length - (s.text.length - left.length) < _
    omega

/-- Reads the tokens from the position on, up to the end or the first fault. -/
def readTokens : Walk (List Token) := fun s ↦
  if _ : s.AtEnd then .ok [.eof] s
  else
    match _ : readWhile Text.isBlank s with
    | .error e s' => .error e s'
    | .ok _ s' =>
      if _ : s'.AtEnd then .ok [.eof] s'
      else
        match _ : readToken s' with
        | .error e s'' => .error e s''
        | .ok t s'' =>
          match readTokens s'' with
          | .ok ts stop => .ok (t :: ts) stop
          | .error e stop => .error e stop
termination_by s => s.text.length - s.position
decreasing_by exact left_lt_of_readToken ‹_› ‹_› ‹_› ‹_›

theorem readTokens_of_blank (h : left <:+ s.text) (hdrop : left.dropWhile Text.isBlank = []) :
    readTokens (s.leave left) = .ok [.eof] (s.leave []) := by
  rw [readTokens]
  by_cases hnil : left = []
  · subst hnil
    exact dif_pos ((atEnd_leave_iff h).2 rfl)
  · have hread := readWhile_leave Text.isBlank h
    rw [hdrop] at hread
    rw [dif_neg (mt (atEnd_leave_iff h).1 hnil)]
    split
    · next heq =>
      rw [hread] at heq
      cases heq
    · next heq =>
      rw [hread] at heq
      cases heq
      exact dif_pos ((atEnd_leave_iff (List.nil_suffix)).2 rfl)

/-- Behind blanks a token is read, and then the others. -/
theorem readTokens_of_not_blank (h : left <:+ s.text)
    (hdrop : left.dropWhile Text.isBlank = c :: rest) :
    readTokens (s.leave left) =
      match s.reached (Token.next (c :: rest)) with
      | .error e s' => .error e s'
      | .ok t s' =>
        match readTokens s' with
        | .ok ts stop => .ok (t :: ts) stop
        | .error e stop => .error e stop := by
  have hread := readWhile_leave Text.isBlank h
  rw [hdrop] at hread
  have hsuffix : c :: rest <:+ s.text := hdrop ▸ (List.dropWhile_suffix Text.isBlank).trans h
  have hne : left ≠ [] := by
    rintro rfl
    cases hdrop
  rw [readTokens, dif_neg (mt (atEnd_leave_iff h).1 hne)]
  split
  · next heq =>
    rw [hread] at heq
    cases heq
  · next heq =>
    rw [hread] at heq
    cases heq
    rw [dif_neg (mt (atEnd_leave_iff hsuffix).1 (List.cons_ne_nil c rest)),
      ← readToken_leave hsuffix (List.cons_ne_nil c rest)]
    split <;> next heq => rw [heq]

/-- All tokens are read as scanning reads them, by induction on what is left. -/
theorem readTokens_leave (h : left <:+ s.text) :
    readTokens (s.leave left) = s.reached (Token.scan left) := by
  -- what is left after a token is an end of the text as well
  have hends {text left : List Char} {c : Char} {rest : List Char} {t : Token}
      (htext : text <:+ s.text) (hdrop : text.dropWhile Text.isBlank = c :: rest)
      (hnext : Token.next (c :: rest) = .ok t left) : left <:+ s.text := by
    obtain ⟨lexeme, heq, -⟩ := Token.lexeme_of_next hnext
    have hleft : left <:+ c :: rest := ⟨lexeme, heq.symm⟩
    exact (hleft.trans (hdrop ▸ List.dropWhile_suffix Text.isBlank)).trans htext
  fun_induction Token.scan left with
  | case1 text hdrop => exact readTokens_of_blank h hdrop
  | case2 text c rest hdrop e left hnext =>
    rw [readTokens_of_not_blank h hdrop, hnext]
    rfl
  | case3 text c rest hdrop t left hnext ts stop hscan ih =>
    rw [readTokens_of_not_blank h hdrop, hnext]
    show (match readTokens (s.leave left) with
      | .ok ts stop => _
      | .error e stop => _) = _
    rw [ih (hends h hdrop hnext), hscan]
    rfl
  | case4 text c rest hdrop t left hnext e stop hscan ih =>
    rw [readTokens_of_not_blank h hdrop, hnext]
    show (match readTokens (s.leave left) with
      | .ok ts stop => _
      | .error e stop => _) = _
    rw [ih (hends h hdrop hnext), hscan]
    rfl

/-- **No character is missed**, from no position within the text: reading by position comes to the
tokens, the error and the position that scanning what is left comes to. -/
theorem readTokens_eq_scan (h : s.position ≤ s.text.length) :
    readTokens s = s.reached (Token.scan s.rest) := by
  have hread := readTokens_leave (List.drop_suffix s.position s.text)
  rwa [show s.text.drop s.position = s.rest from rfl, leave_rest h] at hread

end Scanner

end Tabular
