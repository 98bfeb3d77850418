import Tabular.Proofs.Statement.Stepwise

/-!
# Asking for one statement after another

Whoever reads by position may ask again after each answer, with the same tokens, from where the last
answer left the position. No tokens but none at all lead to anything other than answers: each is a
statement or a fault that is found in the tokens, and the position is at a token again. Only the
first question can bring a statement. The position is at the end then, which is where every later
question begins, and no statement begins with the end.

`Cursor.after` gives the cursor after a number of questions, if all of them come to something; that
they do is part of the theorem and not of the definition. One question is described by
`Cursor.Answered`, and the general statement is by induction on their number, with "there is a token
at the position" as what each question keeps.
-/

namespace Tabular

/-- Where a statement has been read there is the end. -/
theorem TokenReader.head?_of_wholeStatement {tokens left : List Token} {s : Statement}
    (h : wholeStatement tokens = .ok s left) : left.head? = some .eof := by
  obtain ⟨s', mid, -, h⟩ := bind_eq_ok.1 h
  obtain ⟨_, mid', -, h⟩ := bind_eq_ok.1 h
  obtain ⟨found, mid'', hcurrent, h⟩ := bind_eq_ok.1 h
  split at h
  · next hfound =>
    cases mid' with
    | nil => cases hcurrent
    | cons t more =>
      cases hcurrent
      cases h
      exact congrArg some hfound
  · cases h

namespace Cursor

/-- The cursor at the first of the tokens. -/
def start (tokens : List Token) : Cursor where
  tokens := tokens
  position := 0

/-- The cursor after a number of statements have been asked for, whatever the answers were. -/
noncomputable def after (c : Cursor) : Nat → Option Cursor
  | 0 => some c
  | n + 1 => do
    let (_, c') ← wholeStatement (← c.after n)
    return c'

/-- What holds of an answer, the cursor before it and the cursor after it. -/
structure Answered (c : Cursor) (answer : Except Failure Statement) (c' : Cursor) : Prop where
  reaches : c.Reaches c'
  reads : answer = Statement.ofTokens c.rest
  malformed {e : Failure} (h : answer = .error e) : ∃ fault, e = .malformed fault
  ended {s : Statement} (h : answer = .ok s) :
    c'.tokens[c'.position]? = some .eof ∧
      wholeStatement c' = some (.error (.malformed (.unrecognized .eof)), c')

/-- The loops that read lists have an outcome from the cursor, whatever has been read before. -/
structure LoopsEnd (c : Cursor) : Prop where
  names (items : List String) : further .comma (one TokenReader.asName) items c ≠ none
  literals (items : List String) : further .comma (one TokenReader.asLiteral) items c ≠ none
  comparisons (items : List Comparison) : further (.keyword .and) comparison items c ≠ none

variable {c c' : Cursor}

theorem Ends.ne_none {α : Type} {o : Option (Except Failure α × Cursor)}
    {result : EStateM.Result Failure (List Token) α} (h : Ends c o result) : o ≠ none := by
  cases h <;> simp

/-- The loops that read lists end, from any token on. -/
theorem Within.loopsEnd (h : c.Within) : c.LoopsEnd where
  names items := ((Follows.others TokenReader.asName_comma items).ends h).ne_none
  literals items := ((Follows.others TokenReader.asLiteral_comma items).ends h).ne_none
  comparisons items := ((Follows.furtherComparisons items).ends h).ne_none

/-- No statement begins with the end. -/
theorem wholeStatement_eof (h : c.tokens[c.position]? = some .eof) :
    wholeStatement c = some (.error (.malformed (.unrecognized .eof)), c) := by
  refine bind_of_eq_some_error ?_
  rw [statement, bind_of_eq_some_ok (current_eq h)]
  rfl

/-- **Every question is answered**, from every token on. -/
theorem Within.answered (h : c.Within) :
    ∃ answer c', wholeStatement c = some (answer, c') ∧ c.Answered answer c' := by
  have hends := Follows.wholeStatement.ends h
  generalize hwalk : wholeStatement c = outcome, hread : TokenReader.wholeStatement c.rest = result
    at hends
  cases hends with
  | @ok s c' hreaches =>
    have hreads : .ok s = Statement.ofTokens c.rest := by
      rw [Statement.ofTokens, hread]
    refine ⟨.ok s, c', rfl, hreaches, hreads, (by cases ·), fun _ ↦ ?_⟩
    have heof : c'.tokens[c'.position]? = some .eof := by
      rw [← List.head?_drop]
      exact TokenReader.head?_of_wholeStatement hread
    exact ⟨heof, wholeStatement_eof heof⟩
  | @refused fault c' hreaches =>
    have hreads : .error (.malformed fault) = Statement.ofTokens c.rest := by
      rw [Statement.ofTokens, hread]
    refine ⟨.error (.malformed fault), c', rfl, hreaches, hreads, fun h ↦ ?_, (by cases ·)⟩
    exact ⟨fault, (Except.error.inj h).symm⟩

theorem after_succ {n : Nat} {answer : Except Failure Statement} {c'' : Cursor}
    (hafter : c.after n = some c') (hwhole : wholeStatement c' = some (answer, c'')) :
    c.after (n + 1) = some c'' := by
  rw [after, hafter]
  show (wholeStatement c' >>= fun o ↦ some o.2) = _
  rw [hwhole]
  rfl

/-- There is a token to begin with unless there are none at all. -/
theorem within_start {tokens : List Token} (hne : tokens ≠ []) : (start tokens).Within :=
  List.length_pos_iff.2 hne

/-- Wherever the questions have led, there is a token. -/
theorem exists_after (h : c.Within) (n : Nat) : ∃ c', c.after n = some c' ∧ c.Reaches c' := by
  induction n with
  | zero => exact ⟨c, rfl, .refl h⟩
  | succ n ih =>
    obtain ⟨c', hafter, hreaches⟩ := ih
    obtain ⟨answer, c'', hwhole, hanswered⟩ := hreaches.within.answered
    exact ⟨c'', after_succ hafter hwhole, hreaches.trans hanswered.reaches⟩

/-- **Asking for statements never fails to bring an answer.** Given any tokens but none at all, with
the end in any place or in none, and asked any number of times, reading by position comes to a
statement or to a fault in the tokens, which is what the tokens that are left read as. The position
is at a token again, and never behind where it was. After a statement it is at the end, and the next
question finds that the end is no statement. On the way no list goes on for ever, from whatever
token on and after whatever items. -/
theorem questions_answered (tokens : List Token) (hne : tokens ≠ []) :
    (∀ n, ∃ c answer c', (start tokens).after n = some c ∧ (start tokens).Reaches c ∧
      wholeStatement c = some (answer, c') ∧ (start tokens).after (n + 1) = some c' ∧
      c.Answered answer c') ∧
    ∀ position, (Cursor.mk tokens position).Within → (Cursor.mk tokens position).LoopsEnd := by
  refine ⟨fun n ↦ ?_, fun _ ↦ Within.loopsEnd⟩
  obtain ⟨c, hafter, hreaches⟩ := exists_after (within_start hne) n
  obtain ⟨answer, c', hwhole, hanswered⟩ := hreaches.within.answered
  exact ⟨c, answer, c', hafter, hreaches, hwhole, after_succ hafter hwhole, hanswered⟩

/-- Tokens that break off behind `and`, without an end, and tokens that go on behind the end, where
no second statement is found. -/
theorem questions_answered_broken_off :
    (∃ c', wholeStatement (start [.keyword .select, .star, .keyword .fromWord, .ident "t",
        .keyword .whereWord, .ident "a", .relation "=", .literal "x", .keyword .and]) =
      some (.error (.malformed (.expectedName (.keyword .and))), c') ∧ c'.Within) ∧
    ∃ c', wholeStatement (start [.keyword .exit, .semicolon, .eof, .comma]) =
        some (.ok .exit, c') ∧
      wholeStatement c' = some (.error (.malformed (.unrecognized .eof)), c') := by
  refine ⟨?_, ?_⟩
  · have hread : Statement.ofTokens [.keyword .select, .star, .keyword .fromWord, .ident "t",
        .keyword .whereWord, .ident "a", .relation "=", .literal "x", .keyword .and] =
          .error (.malformed (.expectedName (.keyword .and))) := by decide +kernel
    obtain ⟨c, answer, c', hafter, -, hwhole, -, hanswered⟩ :=
      (questions_answered _ (List.cons_ne_nil _ _)).1 0
    cases hafter
    obtain rfl := hanswered.reads.trans hread
    exact ⟨c', hwhole, hanswered.reaches.within⟩
  · obtain ⟨c, answer, c', hafter, -, hwhole, -, hanswered⟩ :=
      (questions_answered [.keyword .exit, .semicolon, .eof, .comma] (List.cons_ne_nil _ _)).1 0
    cases hafter
    obtain rfl : answer = .ok .exit := hanswered.reads
    exact ⟨c', hwhole, (hanswered.ended rfl).2⟩

end Cursor
end Tabular
