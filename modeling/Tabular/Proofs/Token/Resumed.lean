import Tabular.Proofs.Token.Halted
import Tabular.Proofs.Token.Stepwise

/-!
# Reading on after a fault

A scanner that has read a text, or stopped at a fault, can be asked again and goes on from where it
is. `Scanner.after` is the scanner after a number of calls and `Scanner.answer` what a call gives.

A call knows nothing of the calls before it but its position, since it reads what is left and
nothing else (`Scanner.scan_rest`). Once the text is at its end, or reading stays on a character, a
call leaves the scanner as it is, and so do all calls after it (`Scanner.after_eq_of_scan_eq`).
Every other call stops in a literal, beyond the quote that opens it. So each call moves on or is the
last that matters (`Scanner.settled_or_lt`), and there are not more of them than characters
(`Scanner.answer_settles`).

## What a call keeps

The fields of `Scanner.Resumes` are one statement each, and each is shown by a lemma of its own
about one call; the structure only lists them. A scanner whose position is beyond its text would
answer as one at the end, so the lemmas ask for a position within, which is where every call begins
that follows others on a new scanner (`Scanner.position_after_le`).

The bound on the number of calls is not sharp and need not be. Each call that moves the scanner and
is not the last passes a quote, so the quotes could be counted; a number of characters is what
positions give without looking at the text again.
-/

namespace Tabular.Scanner

/-- The scanner after a number of calls. -/
def after (s : Scanner) : Nat → Scanner
  | 0 => s
  | n + 1 => (s.after n).scan.2

/-- What a call answers that comes after a number of others. -/
def answer (s : Scanner) (n : Nat) : Except Failure (List Token) :=
  (s.after n).scan.1

variable {s : Scanner} {n : Nat} {fault : Malformation}

/-! ### One call -/

/-- **A call comes to the end of the text, or to a fault in what is left.** -/
theorem scan_cases (s : Scanner) :
    (∃ ts, s.scan = (.ok ts, s.leave [])) ∨
      ∃ fault left, Token.Halts s.rest fault left ∧
        s.scan = (.error (.malformed fault), s.leave left) := by
  rw [scan]
  cases hscan : Token.scan s.rest with
  | ok ts left =>
    obtain ⟨rfl, -⟩ := Token.reads_of_scan hscan
    exact .inl ⟨ts, rfl⟩
  | error e left =>
    obtain ⟨fault, rfl, hhalts⟩ := Token.scan_eq_error_iff.1 hscan
    exact .inr ⟨fault, left, hhalts, rfl⟩

/-- A call gives tokens, or says what is wrong at a character or in a literal. -/
theorem answers (s : Scanner) :
    (∃ ts, s.scan.1 = .ok ts) ∨ ∃ fault, s.scan.1 = .error (.malformed fault) ∧
      ((∃ c, fault.stuckOn? = some c) ∨ fault = .commaInLiteral ∨
        fault = .unterminatedLiteral) := by
  obtain ⟨ts, hscan⟩ | ⟨fault, left, hhalts, hscan⟩ := s.scan_cases
  · exact .inl ⟨ts, by rw [hscan]⟩
  · obtain ⟨front, text', -, -, hfaulty⟩ := hhalts.exists_faulty
    exact .inr ⟨fault, by rw [hscan], hfaulty.stuck_or_in_literal⟩

/-- A call leaves an end of what was left. -/
theorem exists_leave (s : Scanner) : ∃ left, left <:+ s.rest ∧ s.scan.2 = s.leave left := by
  obtain ⟨ts, hscan⟩ | ⟨fault, left, hhalts, hscan⟩ := s.scan_cases
  · exact ⟨[], List.nil_suffix, by rw [hscan]⟩
  · exact ⟨left, hhalts.suffix, by rw [hscan]⟩

theorem rest_suffix (s : Scanner) : s.rest <:+ s.text :=
  List.drop_suffix s.position s.text

theorem halts_of_scan (h : s.scan.1 = .error (.malformed fault)) :
    Token.Halts s.rest fault s.scan.2.rest := by
  obtain ⟨ts, hscan⟩ | ⟨fault', left, hhalts, hscan⟩ := s.scan_cases
  · rw [hscan] at h
    cases h
  · rw [hscan] at h ⊢
    cases h
    rwa [rest_leave (hhalts.suffix.trans s.rest_suffix)]

/-- **Positions do not go back**, and stay within the text. -/
theorem position_le_scan (h : s.position ≤ s.text.length) :
    s.position ≤ s.scan.2.position ∧ s.scan.2.position ≤ s.scan.2.text.length := by
  obtain ⟨left, hleft, hscan⟩ := s.exists_leave
  have hlength := hleft.length_le
  rw [rest, List.length_drop] at hlength
  rw [hscan]
  simp only [leave]
  omega

/-- Within the text, the position and what is left make up the text. -/
theorem position_add_length (h : s.position ≤ s.text.length) :
    s.position + s.rest.length = s.text.length := by
  rw [rest, List.length_drop]
  omega

/-- A call on what is left, as a text of its own, gives the same answer, and comes as far. -/
theorem scan_rest (h : s.position ≤ s.text.length) :
    (ofText (String.ofList s.rest)).scan.1 = s.scan.1 ∧
      s.scan.2.position = s.position + (ofText (String.ofList s.rest)).scan.2.position := by
  have hfresh : (ofText (String.ofList s.rest)).rest = s.rest := by
    rw [Token.rest_ofText, String.toList_ofList]
  have hlength := position_add_length h
  rw [scan, scan, hfresh]
  cases hscan : Token.scan s.rest with
  | ok ts left =>
    obtain ⟨rfl, -⟩ := Token.reads_of_scan hscan
    refine ⟨rfl, ?_⟩
    simp only [leave, ofText, String.toList_ofList, List.length_nil]
    omega
  | error e left =>
    obtain ⟨fault, -, hhalts⟩ := Token.scan_eq_error_iff.1 hscan
    have hle := hhalts.suffix.length_le
    refine ⟨rfl, ?_⟩
    simp only [leave, ofText, String.toList_ofList]
    omega

/-- A call at the end of the text stays there. -/
theorem scan_of_rest_eq_nil (h : s.position ≤ s.text.length) (hrest : s.rest = []) :
    s.scan = (.ok [.eof], s) := by
  have hleave := leave_rest h
  rw [hrest] at hleave
  rw [scan, hrest, Token.scan_of_dropWhile_eq_nil rfl]
  exact congrArg (Prod.mk _) hleave

/-- After an answer without a fault nothing is left. -/
theorem rest_eq_nil_of_scan {ts : List Token} (h : s.scan.1 = .ok ts) : s.scan.2.rest = [] := by
  obtain ⟨ts', hscan⟩ | ⟨fault, left, -, hscan⟩ := s.scan_cases
  · rw [hscan]
    exact rest_leave List.nil_suffix
  · rw [hscan] at h
    cases h

/-- **A call that stays on a character gives the same answer again**, and stays there again. -/
theorem scan_again {c : Char} (hs : s.position ≤ s.text.length)
    (h : s.scan.1 = .error (.malformed fault)) (hc : fault.stuckOn? = some c) :
    s.scan.2.scan = s.scan ∧ s.scan.2.rest.head? = some c := by
  obtain ⟨hagain, hhead⟩ := (halts_of_scan h).again hc
  refine ⟨?_, hhead⟩
  have hwithin := (position_le_scan hs).2
  have hscan : s.scan.2.scan = (.error (.malformed fault), s.scan.2.leave s.scan.2.rest) := by
    rw [scan, hagain.scan_eq]
  rw [hscan, leave_rest hwithin, ← h]

/-- **A call that stops in a literal has moved beyond its quote.** -/
theorem exists_quote_of_scan (hs : s.position ≤ s.text.length)
    (h : s.scan.1 = .error (.malformed fault)) (hnone : fault.stuckOn? = none) :
    ∃ front value, s.rest = front ++ '\'' :: (value ++ s.scan.2.rest) ∧
      (∃ ts, Token.Reads ts front) ∧ (∀ c ∈ value, isLiteralChar c = true) ∧
      s.position + front.length < s.scan.2.position := by
  obtain ⟨front, value, hrest, hreads, hvalue⟩ := (halts_of_scan h).exists_quote hnone
  refine ⟨front, value, hrest, hreads, hvalue, ?_⟩
  have hbefore := position_add_length hs
  have hafter := position_add_length (position_le_scan hs).2
  have htext : s.scan.2.text = s.text := by
    obtain ⟨left, -, hscan⟩ := s.exists_leave
    rw [hscan, leave]
  have hlength := congrArg List.length hrest
  simp only [List.length_append, List.length_cons] at hlength
  rw [htext] at hafter
  omega

/-! ### Call after call -/

theorem text_after (s : Scanner) (n : Nat) : (s.after n).text = s.text := by
  induction n with
  | zero => rfl
  | succ n ih =>
    obtain ⟨left, -, hscan⟩ := (s.after n).exists_leave
    rw [after, hscan, leave, ih]

theorem position_after_le (h : s.position ≤ s.text.length) (n : Nat) :
    (s.after n).position ≤ (s.after n).text.length := by
  induction n with
  | zero => exact h
  | succ n ih => exact (position_le_scan ih).2

/-- **What does not move stays**: if a call leaves the scanner as it is, so do all others after
it. -/
theorem after_eq_of_scan_eq (h : (s.after n).scan.2 = s.after n) {m : Nat} (hm : n ≤ m) :
    s.after m = s.after n := by
  induction m, hm using Nat.le_induction with
  | base => rfl
  | succ m _ ih => rw [after, ih, h]

/-- After an answer without a fault all others are that nothing is left. -/
theorem answer_of_ok (h : s.position ≤ s.text.length) {ts : List Token} (hn : s.answer n = .ok ts)
    {m : Nat} (hm : n < m) : s.answer m = .ok [.eof] := by
  have hscan : (s.after (n + 1)).scan = (.ok [.eof], s.after (n + 1)) :=
    scan_of_rest_eq_nil (position_after_le h (n + 1)) (rest_eq_nil_of_scan hn)
  rw [answer, after_eq_of_scan_eq (by rw [hscan]) hm, hscan]

/-- After a call that stays on a character all others do. -/
theorem answer_of_stuck (h : s.position ≤ s.text.length) {c : Char}
    (hn : s.answer n = .error (.malformed fault)) (hc : fault.stuckOn? = some c) {m : Nat}
    (hm : n < m) : s.after m = s.after (n + 1) ∧ s.answer m = s.answer n := by
  obtain ⟨hagain, -⟩ := scan_again (position_after_le h n) hn hc
  have hsame : (s.after (n + 1)).scan.2 = s.after (n + 1) := congrArg Prod.snd hagain
  have hstays : s.after m = s.after (n + 1) := after_eq_of_scan_eq hsame hm
  refine ⟨hstays, ?_⟩
  rw [answer, hstays]
  exact congrArg Prod.fst hagain

/-- **Either nothing changes from a call on, or the call moves on.** -/
theorem settled_or_lt (h : s.position ≤ s.text.length) (n : Nat) :
    (∀ m, n < m → s.answer m = s.answer (n + 1)) ∨
      (s.after n).position < (s.after (n + 1)).position := by
  have hlt : n < n + 1 := Nat.lt_succ_self n
  obtain ⟨ts, hscan⟩ | ⟨fault, left, -, hscan⟩ := (s.after n).scan_cases
  · have hn : s.answer n = .ok ts := congrArg Prod.fst hscan
    exact .inl fun m hm ↦ by rw [answer_of_ok h hn hm, answer_of_ok h hn hlt]
  · have hn : s.answer n = .error (.malformed fault) := congrArg Prod.fst hscan
    cases hstuck : fault.stuckOn? with
    | some c =>
      refine .inl fun m hm ↦ ?_
      rw [(answer_of_stuck h hn hstuck hm).2, (answer_of_stuck h hn hstuck hlt).2]
    | none =>
      obtain ⟨front, value, -, -, -, hposition⟩ :=
        exists_quote_of_scan (position_after_le h n) hn hstuck
      exact .inr (Nat.lt_of_le_of_lt (Nat.le_add_right ..) hposition)

/-- As many calls as characters, and one more, are enough to settle. -/
theorem answer_eq_of_length_lt (h : s.position ≤ s.text.length) {m : Nat}
    (hm : s.text.length < m) : s.answer m = s.answer (s.text.length + 1) := by
  -- until a call settles, each of them has moved on by one character at least
  have hcount (n : Nat) : (∃ k < n, ∀ m, k < m → s.answer m = s.answer (k + 1)) ∨
      n ≤ (s.after n).position := by
    induction n with
    | zero => exact .inr (Nat.zero_le _)
    | succ n ih =>
      rcases ih with ⟨k, hk, hsettled⟩ | hle
      · exact .inl ⟨k, Nat.lt_succ_of_lt hk, hsettled⟩
      · rcases settled_or_lt h n with hsettled | hlt
        · exact .inl ⟨n, Nat.lt_succ_self n, hsettled⟩
        · exact .inr (Nat.lt_of_le_of_lt hle hlt)
  rcases hcount (s.text.length + 1) with ⟨k, hk, hsettled⟩ | hle
  · rw [hsettled m (by omega), hsettled (s.text.length + 1) hk]
  · have hwithin := position_after_le h (s.text.length + 1)
    rw [text_after] at hwithin
    omega

/-- What holds of the call after `n` others: of its answer, of the scanner before and after it, and
of the calls that follow. -/
structure Resumes (s : Scanner) (n : Nat) : Prop where
  /-- The call gives tokens, or says what is wrong at a character or in a literal. -/
  returns : (∃ ts, s.answer n = .ok ts) ∨ ∃ fault, s.answer n = .error (.malformed fault) ∧
    ((∃ c, fault.stuckOn? = some c) ∨ fault = .commaInLiteral ∨ fault = .unterminatedLiteral)
  /-- Reading by position comes to the same, so no character is missed. -/
  misses_none : readTokens (s.after n) =
    match s.answer n with
    | .ok ts => .ok ts (s.after (n + 1))
    | .error e => .error e (s.after (n + 1))
  position_le : (s.after n).position ≤ (s.after (n + 1)).position
  position_le_length : (s.after (n + 1)).position ≤ s.text.length
  /-- The call reads what is left as a new scanner would. -/
  fresh : s.answer n = (ofText (String.ofList (s.text.drop (s.after n).position))).scan.1 ∧
    (s.after (n + 1)).position = (s.after n).position +
      (ofText (String.ofList (s.text.drop (s.after n).position))).scan.2.position
  /-- After tokens there is only the end. -/
  ended : ∀ ts, s.answer n = .ok ts → ∀ m, n < m → s.answer m = .ok [.eof]
  /-- A character that no token begins with is never passed. -/
  stuck : ∀ fault c, s.answer n = .error (.malformed fault) → fault.stuckOn? = some c →
    s.text[(s.after (n + 1)).position]? = some c ∧
      ∀ m, n < m → s.after m = s.after (n + 1) ∧ s.answer m = s.answer n
  /-- The opening quote of a faulty literal is passed: what stands before it reads as tokens, and
  what was read behind it belongs to the literal. -/
  moved : ∀ fault, s.answer n = .error (.malformed fault) →
    fault = .commaInLiteral ∨ fault = .unterminatedLiteral →
    ∃ front value,
      s.text.drop (s.after n).position =
        front ++ '\'' :: (value ++ s.text.drop (s.after (n + 1)).position) ∧
      (∃ ts, Token.Reads ts front) ∧ (∀ c ∈ value, isLiteralChar c = true) ∧
      (s.after n).position + front.length < (s.after (n + 1)).position

/-- **A call goes on from where the scanner is**, and from nothing else. -/
theorem resumes (h : s.position ≤ s.text.length) (n : Nat) : s.Resumes n := by
  have hrest (n : Nat) : (s.after n).rest = s.text.drop (s.after n).position :=
    congrArg (List.drop _) (s.text_after n)
  have hwithin := position_after_le h n
  exact {
    returns := (s.after n).answers
    misses_none := by
      rw [readTokens_eq_scan hwithin, answer, after, scan]
      cases Token.scan (s.after n).rest <;> rfl
    position_le := (position_le_scan hwithin).1
    position_le_length :=
      (position_after_le h (n + 1)).trans_eq (congrArg List.length (s.text_after (n + 1)))
    fresh := by
      obtain ⟨hanswer, hposition⟩ := scan_rest hwithin
      rw [hrest] at hanswer hposition
      exact ⟨hanswer.symm, hposition⟩
    ended := fun ts hn m hm ↦ answer_of_ok h hn hm
    stuck := fun fault c hn hc ↦ by
      refine ⟨?_, fun m hm ↦ answer_of_stuck h hn hc hm⟩
      rw [← List.head?_drop, ← hrest]
      exact (scan_again hwithin hn hc).2
    moved := fun fault hn hliteral ↦ by
      have hnone : fault.stuckOn? = none := by rcases hliteral with rfl | rfl <;> rfl
      rw [← hrest, ← hrest]
      exact exists_quote_of_scan hwithin hn hnone }

/-- **A scanner that is asked again and again resumes where it is, and settles.** Every call gives
tokens or says what is wrong. It goes on from its position, within the text and never back, as a
scanner on the rest of the text would from its beginning. After tokens there is only the end; on an
unsupported character or a lone exclamation mark it stays for ever; of a faulty literal the opening
quote is behind it. So after as many calls as there are characters, and one more, the answer stays
the same. -/
theorem answer_settles (text : String) :
    (∀ n, (ofText text).Resumes n) ∧
      ∀ m, text.toList.length < m →
        (ofText text).answer m = (ofText text).answer (text.toList.length + 1) := by
  have h : (ofText text).position ≤ (ofText text).text.length := Nat.zero_le _
  exact ⟨resumes h, fun m hm ↦ answer_eq_of_length_lt h hm⟩

/-- A literal that holds a comma, and then a character that is never passed. -/
theorem answer_settles_stuck :
    let s := ofText "a 'x,#'"
    s.answer 0 = .error (.malformed .commaInLiteral) ∧
      s.answer 1 = .error (.malformed (.unsupported '#')) ∧
      (∃ front value,
        "a 'x,#'".toList = front ++ '\'' :: (value ++ ",#'".toList) ∧
        (∃ ts, Token.Reads ts front) ∧ (∀ c ∈ value, isLiteralChar c = true) ∧ front.length < 4) ∧
      ∀ m, 1 < m → s.answer m = .error (.malformed (.unsupported '#')) := by
  intro s
  have hfirst : s.answer 0 = .error (.malformed .commaInLiteral) := by decide +kernel
  have hsecond : s.answer 1 = .error (.malformed (.unsupported '#')) := by decide +kernel
  have hresumes : ∀ n, s.Resumes n := (answer_settles "a 'x,#'").1
  have hleft : s.text.drop (s.after 1).position = ",#'".toList := by decide +kernel
  obtain ⟨front, value, hsplit, hreads, hvalue, hlt⟩ := (hresumes 0).moved _ hfirst (.inl rfl)
  rw [hleft] at hsplit
  have hposition : 0 + front.length < (s.after 1).position := hlt
  have hstop : (s.after 1).position = 4 := by decide +kernel
  refine ⟨hfirst, hsecond, ⟨front, value, hsplit, hreads, hvalue, by omega⟩, fun m hm ↦ ?_⟩
  rw [((hresumes 1).stuck _ '#' hsecond rfl).2 m hm |>.2, hsecond]

end Tabular.Scanner
