import Tabular.Statement.Parser

/-!
# What readers of statements leave and refuse

Readers of tokens are made of a few by sequence, and what holds of the few holds of all of them
(`TokenReader.Orderly`): given any tokens at all, a reader leaves some of them at the end, and it is
refused only what a statement can be refused for before its semicolon. So what is found after a
semicolon can only be refused where a statement stands before it (`Statement.ofTokens_eq_error`).

Both halves have to go together. What a reader refuses depends on the tokens that the reader before
it has left, and at no tokens at all a reader comes to an outcome of its own (`Failure.outOfRange`),
so each must leave some for the next. The proofs below follow the readers: the primitive ones by
looking at the first token, and the others by `TokenReader.Orderly.bind`.

## Faults by place

The faults that reading finds fall into three groups by where they are found: in the characters of a
text, in the tokens of a statement (`Malformation.InStatement`), and behind a semicolon
(`.trailing`). No reader within a statement knows of the third, and
`TokenReader.wholeStatement_eq_error` is the one place where it comes in.
-/

namespace Tabular

/-- What can be wrong with the tokens of a statement before its semicolon, or with the semicolon. -/
def Malformation.InStatement : Malformation → Prop
  | unrecognized _ | expected _ _ | expectedName _ | expectedLiteral _ | expectedRelation _
  | expectedContents | unknownRelation _ | tooManyTables => True
  | _ => False

namespace TokenReader

variable {α β : Type}

/-- A reader that leaves tokens at the end of those it is given, unless it finds fault with the
statement. -/
structure Orderly (x : TokenReader α) : Prop where
  suffix {tokens left : List Token} {a : α} (hne : tokens ≠ []) (h : x tokens = .ok a left) :
    left ≠ [] ∧ left <:+ tokens
  fault {tokens left : List Token} {e : Failure} (hne : tokens ≠ [])
    (h : x tokens = .error e left) :
    ∃ fault, e = .malformed fault ∧ fault.InStatement

theorem bind_eq_error {x : TokenReader α} {f : α → TokenReader β} {tokens left : List Token}
    {e : Failure} :
    (x >>= f) tokens = .error e left ↔
      x tokens = .error e left ∨ ∃ a mid, x tokens = .ok a mid ∧ f a mid = .error e left := by
  change EStateM.bind x f tokens = _ ↔ _
  unfold EStateM.bind
  cases x tokens with
  | error e' left' => simp
  | ok a mid =>
    simp only [reduceCtorEq, EStateM.Result.ok.injEq, false_or]
    exact ⟨fun h ↦ ⟨a, mid, ⟨rfl, rfl⟩, h⟩, by rintro ⟨_, _, ⟨rfl, rfl⟩, h⟩; exact h⟩

theorem expect_eq_ok {wanted : Token} {tokens left : List Token}
    (h : expect wanted tokens = .ok () left) :
    ∃ rest, tokens = wanted :: rest ∧ left = past (wanted :: rest) := by
  obtain ⟨found, mid, hcurrent, hmove⟩ := bind_eq_ok.1 h
  cases tokens with
  | nil => cases hcurrent
  | cons t rest =>
    cases hcurrent
    by_cases hfound : found = wanted
    · subst hfound
      rw [if_pos rfl] at hmove
      cases hmove
      exact ⟨rest, rfl, rfl⟩
    · rw [if_neg hfound] at hmove
      cases hmove

theorem past_suffix (tokens : List Token) : past tokens <:+ tokens := by
  unfold past
  split
  · exact List.suffix_cons _ _
  · exact List.suffix_refl _

theorem past_ne_nil {tokens : List Token} (h : tokens ≠ []) : past tokens ≠ [] := by
  unfold past
  split
  · simp
  · exact h

namespace Orderly

/-! ### The primitive readers -/

theorem pure (a : α) : Orderly (Pure.pure a : TokenReader α) where
  suffix hne h := by
    cases h
    exact ⟨hne, List.suffix_refl _⟩
  fault _ h := by cases h

theorem bind {x : TokenReader α} {f : α → TokenReader β} (hx : Orderly x)
    (hf : ∀ a, Orderly (f a)) :
    Orderly (x >>= f) where
  suffix hne h := by
    obtain ⟨a, mid, hmid, h⟩ := bind_eq_ok.1 h
    obtain ⟨hmidne, hmidsuffix⟩ := hx.suffix hne hmid
    obtain ⟨hleftne, hleftsuffix⟩ := (hf a).suffix hmidne h
    exact ⟨hleftne, hleftsuffix.trans hmidsuffix⟩
  fault hne h := by
    rcases bind_eq_error.1 h with h | ⟨a, mid, hmid, h⟩
    · exact hx.fault hne h
    · exact (hf a).fault (hx.suffix hne hmid).1 h

theorem current : Orderly current where
  suffix {tokens _ _} hne h := by
    cases tokens with
    | nil => exact absurd rfl hne
    | cons t rest =>
      cases h
      exact ⟨hne, List.suffix_refl _⟩
  fault {tokens _ _} hne h := by
    cases tokens with
    | nil => exact absurd rfl hne
    | cons t rest => cases h

theorem advance : Orderly advance where
  suffix hne h := by
    obtain ⟨t, rest, rfl⟩ := List.exists_cons_of_ne_nil hne
    cases h
    exact ⟨past_ne_nil hne, past_suffix _⟩
  fault hne h := by
    obtain ⟨t, rest, rfl⟩ := List.exists_cons_of_ne_nil hne
    cases h

theorem refuse {fault : Malformation} (h : fault.InStatement) :
    Orderly (refuse fault : TokenReader α) where
  suffix _ h := by cases h
  fault _ h' := by
    cases h'
    exact ⟨fault, rfl, h⟩

theorem expect (wanted : Token) : Orderly (expect wanted) := by
  refine bind current fun found ↦ ?_
  split
  · exact advance
  · exact refuse trivial

theorem accept (wanted : Token) : Orderly (accept wanted) := by
  refine bind current fun found ↦ ?_
  split
  · exact bind advance fun _ ↦ pure true
  · exact pure false

/-- A reader of one token is orderly if all faults of that token are faults in the statement. -/
theorem one {read : Token → Except Malformation α}
    (hread : ∀ {t fault}, read t = .error fault → fault.InStatement) : Orderly (one read) where
  suffix {tokens _ _} hne h := by
    obtain ⟨t, rest, rfl, -, rfl⟩ := one_eq_ok h
    exact ⟨past_ne_nil hne, past_suffix _⟩
  fault {tokens _ _} hne h := by
    cases tokens with
    | nil => exact absurd rfl hne
    | cons t rest =>
      simp only [TokenReader.one] at h
      split at h <;> cases h
      next hfault => exact ⟨_, rfl, hread hfault⟩

/-- A list is orderly if its items are. Its length decides how often it goes round, so the induction
is on the tokens. -/
theorem commaList {read : Token → Except Malformation α}
    (hread : ∀ {t fault}, read t = .error fault → fault.InStatement) :
    Orderly (commaList read) where
  suffix {tokens left as} hne h := by
    fun_induction TokenReader.commaList read tokens generalizing as with
    | case1 => exact absurd rfl hne
    | case2 => cases h
    | case3 t a hreadt more as' left' hlist ih =>
      cases h
      obtain ⟨hleft, hsuffix⟩ := ih (past_ne_nil (by simp)) hlist
      exact ⟨hleft, (hsuffix.trans (past_suffix _)).trans (List.suffix_cons _ _)⟩
    | case4 => cases h
    | case5 t rest =>
      cases h
      exact ⟨past_ne_nil (by simp), past_suffix _⟩
  fault {tokens left e} hne h := by
    fun_induction TokenReader.commaList read tokens with
    | case1 => exact absurd rfl hne
    | case2 t rest fault hfault =>
      cases h
      exact ⟨fault, rfl, hread hfault⟩
    | case3 => cases h
    | case4 t a hreadt more e' left' hlist ih =>
      cases h
      exact ih (past_ne_nil (by simp)) hlist
    | case5 => cases h

/-! ### The readers made of them -/

theorem asName {t : Token} {fault : Malformation} (h : asName t = .error fault) :
    fault.InStatement := by
  cases t <;> cases h <;> trivial

theorem asLiteral {t : Token} {fault : Malformation} (h : asLiteral t = .error fault) :
    fault.InStatement := by
  cases t <;> cases h <;> trivial

theorem asRelation {t : Token} {fault : Malformation} (h : asRelation t = .error fault) :
    fault.InStatement := by
  unfold TokenReader.asRelation at h
  split at h
  · split at h <;> cases h
    trivial
  · cases h
    trivial

theorem asOperand {t : Token} {fault : Malformation} (h : asOperand t = .error fault) :
    fault.InStatement := by
  cases t <;> cases h <;> trivial

theorem comparison : Orderly comparison :=
  bind (one asName) fun _ ↦ bind (one asRelation) fun _ ↦ bind (one asOperand) fun _ ↦ pure _

theorem furtherComparisons : Orderly furtherComparisons where
  suffix {tokens left cs} hne h := by
    fun_induction TokenReader.furtherComparisons tokens generalizing cs with
    | case1 => exact absurd rfl hne
    | case2 => cases h
    | case3 rest c mid cs' left' hrest hcomparison ih =>
      cases h
      obtain ⟨hmid, hmidsuffix⟩ := comparison.suffix (past_ne_nil hne) hcomparison
      obtain ⟨hleft, hleftsuffix⟩ := ih hmid hrest
      exact ⟨hleft, (hleftsuffix.trans hmidsuffix).trans (past_suffix _)⟩
    | case4 => cases h
    | case5 =>
      cases h
      exact ⟨hne, List.suffix_refl _⟩
  fault {tokens left e} hne h := by
    fun_induction TokenReader.furtherComparisons tokens with
    | case1 => exact absurd rfl hne
    | case2 rest e' mid hcomparison =>
      cases h
      exact comparison.fault (past_ne_nil hne) hcomparison
    | case3 => cases h
    | case4 rest c mid e' left' hrest hcomparison ih =>
      cases h
      exact ih (comparison.suffix (past_ne_nil hne) hcomparison).1 hrest
    | case5 => cases h

theorem comparisons : Orderly comparisons := by
  refine bind (accept _) fun found ↦ ?_
  cases found with
  | false => exact pure []
  | true => exact bind comparison fun _ ↦ bind furtherComparisons fun _ ↦ pure _

theorem selection : Orderly selection := by
  refine bind (accept _) fun found ↦ ?_
  cases found with
  | false => exact bind (commaList asName) fun _ ↦ pure _
  | true => exact pure Selection.all

theorem query : Orderly query := by
  refine bind (expect _) fun _ ↦ bind selection fun _ ↦ bind (expect _) fun _ ↦
    bind (commaList asName) fun tables ↦ ?_
  split
  · exact bind (refuse trivial) fun _ ↦ bind comparisons fun _ ↦ pure _
  · exact bind comparisons fun _ ↦ pure _

theorem contents : Orderly contents := by
  refine bind current fun found ↦ ?_
  split
  · exact bind advance fun _ ↦ bind (commaList asName) fun _ ↦ bind (expect _) fun _ ↦ pure _
  · exact bind advance fun _ ↦ bind query fun _ ↦ pure _
  · exact refuse trivial

/-- **Reading a statement leaves tokens at the end of those it is given**, or finds fault with the
statement. -/
theorem statement : Orderly statement := by
  refine bind current fun found ↦ ?_
  split
  · exact bind advance fun _ ↦ bind (expect _) fun _ ↦ bind (one asName) fun _ ↦
      bind contents fun _ ↦ pure _
  · exact bind advance fun _ ↦ bind (one asName) fun _ ↦ pure _
  · exact bind advance fun _ ↦ bind (one asName) fun _ ↦ pure _
  · exact bind advance fun _ ↦ bind (expect _) fun _ ↦ bind (one asName) fun _ ↦
      bind (expect _) fun _ ↦ bind (commaList asLiteral) fun _ ↦ pure _
  · exact bind advance fun _ ↦ bind (one asName) fun _ ↦ pure _
  · exact bind query fun _ ↦ pure _
  · exact bind advance fun _ ↦ pure _
  · exact bind advance fun _ ↦ pure _
  · exact refuse trivial

end Orderly

/-- **A whole statement is refused for what is in it, or for what comes after a semicolon.** -/
theorem wholeStatement_eq_error {tokens left : List Token} {e : Failure} (hne : tokens ≠ [])
    (h : wholeStatement tokens = .error e left) :
    ∃ fault, e = .malformed fault ∧ (fault.InStatement ∨ ∃ found front after,
      fault = .trailing found ∧ tokens = front ++ .semicolon :: after ∧
        after.head? ≠ some .eof) := by
  rcases bind_eq_error.1 h with hstatement | ⟨s, atEnd, hstatement, hend⟩
  · obtain ⟨fault, rfl, hfault⟩ := Orderly.statement.fault hne hstatement
    exact ⟨fault, rfl, .inl hfault⟩
  -- the statement was read: what is left begins with its semicolon, or it is refused for that
  obtain ⟨hatEnd, front, rfl⟩ := Orderly.statement.suffix hne hstatement
  rcases bind_eq_error.1 hend with hsemicolon | ⟨_, more, hsemicolon, hafter⟩
  · obtain ⟨fault, rfl, hfault⟩ := (Orderly.expect _).fault hatEnd hsemicolon
    exact ⟨fault, rfl, .inl hfault⟩
  obtain ⟨after, rfl, rfl⟩ : ∃ after, atEnd = .semicolon :: after ∧
      more = past (.semicolon :: after) := expect_eq_ok hsemicolon
  cases after with
  | nil =>
    cases hafter
    exact ⟨_, rfl, .inr ⟨_, front, [], rfl, rfl, by simp⟩⟩
  | cons found rest =>
    change (if found = .eof then Pure.pure s else refuse (.trailing found) :
      TokenReader Statement) (found :: rest) = _ at hafter
    by_cases hfound : found = .eof
    · rw [if_pos hfound] at hafter
      cases hafter
    · rw [if_neg hfound] at hafter
      cases hafter
      exact ⟨_, rfl, .inr ⟨found, front, found :: rest, rfl, rfl, by simpa using hfound⟩⟩

end TokenReader

namespace Statement

/-- **What tokens are refused for**: something in the statement, or something after a semicolon. -/
theorem ofTokens_eq_error {tokens : List Token} {e : Failure} (hne : tokens ≠ [])
    (h : ofTokens tokens = .error e) :
    ∃ fault, e = .malformed fault ∧ (fault.InStatement ∨ ∃ found front after,
      fault = .trailing found ∧ tokens = front ++ .semicolon :: after ∧
        after.head? ≠ some .eof) := by
  unfold ofTokens at h
  split at h
  · cases h
  · next hwhole =>
    cases h
    exact TokenReader.wholeStatement_eq_error hne hwhole

end Statement

/-- What comes after a semicolon, where the only one is followed by the end. -/
theorem Token.head?_of_append_semicolon {body front after : List Token} (hbody : .semicolon ∉ body)
    (h : body ++ [.semicolon, .eof] = front ++ .semicolon :: after) : after.head? = some .eof := by
  rcases List.append_eq_append_iff.1 h with ⟨more, rfl, hmore⟩ | ⟨more, rfl, hmore⟩
  · cases more with
    | nil =>
      cases hmore
      rfl
    | cons t more =>
      -- the other semicolon would be at the end, or after it
      obtain ⟨-, hrest⟩ := List.cons.inj hmore
      cases more with
      | nil => cases hrest
      | cons u more => cases more <;> cases hrest
  · cases more with
    | nil =>
      cases hmore
      rfl
    | cons t more =>
      obtain ⟨rfl, -⟩ := List.cons.inj hmore
      exact absurd (by simp) hbody

end Tabular
