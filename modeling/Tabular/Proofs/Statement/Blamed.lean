import Tabular.Proofs.Statement.Refusal
import Tabular.Proofs.Token.Lexeme

/-!
# The token that a refusal is about

A reader of statements stops at the token that it refuses, and the fault is of this token
(`TokenReader.Blames`): it names the token, or says of a relation that there is none with its
symbol. The token is one of those that are read (`Statement.exists_token_of_error`). Tokens that a
text is made of hold symbols of relations only, so of no text it is said that a relation is unknown
(`Statement.ne_unknownRelation`).

The shape of the argument is that of `TokenReader.Orderly`, and that property is used where readers
come one after another: the second begins at tokens that the first has left. A fault that tells
nothing of a token could be at any, so for those there is nothing to show (`Malformation.At`).

## Symbols of relations

That no text is refused for an unknown relation needs both ends. A fault of this kind is at a token
`relation symbol` for which there is no relation, and this token is among those of the text; but the
tokenizer makes such tokens out of the six symbols only (`Token.exists_relation_of_ofText`).
-/

namespace Tabular

/-- The fault can be found at this token. -/
def Malformation.At (found : Token) : Malformation → Prop
  | unrecognized t | expected _ t | expectedName t | expectedLiteral t | expectedRelation t
  | trailing t => t = found
  | unknownRelation symbol => found = .relation symbol ∧ Relation.ofSymbol? symbol = none
  | expectedContents | tooManyTables => True
  | _ => False

namespace TokenReader

variable {α β : Type}

/-- If this is a refusal, it is for a fault at the first token left, which is one of the given. -/
def Blamed (tokens : List Token) (result : EStateM.Result Failure (List Token) α) : Prop :=
  ∀ e left, result = .error e left → ∃ fault found more,
    e = .malformed fault ∧ left = found :: more ∧ left <:+ tokens ∧ fault.At found

/-- A reader that refuses tokens for a fault at the token where it stops. -/
structure Blames (x : TokenReader α) : Prop where
  blamed {tokens : List Token} (hne : tokens ≠ []) : Blamed tokens (x tokens)

theorem Blamed.of_suffix {tokens tokens' : List Token}
    {result : EStateM.Result Failure (List Token) α} (h : Blamed tokens result)
    (hsuffix : tokens <:+ tokens') : Blamed tokens' result := by
  intro e left heq
  obtain ⟨fault, found, more, he, hleft, hend, hfault⟩ := h e left heq
  exact ⟨fault, found, more, he, hleft, hend.trans hsuffix, hfault⟩

/-- A reader that refuses what it finds first is refused there. -/
theorem blamed_refuse {t : Token} {fault : Malformation} (h : fault.At t) (more : List Token) :
    Blamed (t :: more) ((refuse fault : TokenReader α) (t :: more)) := by
  rintro _ _ ⟨⟩
  exact ⟨fault, t, more, rfl, rfl, List.suffix_refl _, h⟩

namespace Blames

/-! ### The primitive readers -/

theorem pure (a : α) : Blames (Pure.pure a : TokenReader α) where
  blamed _ _ _ h := by cases h

theorem bind {x : TokenReader α} {f : α → TokenReader β} (hx : Blames x) (horderly : Orderly x)
    (hf : ∀ a, Blames (f a)) : Blames (x >>= f) where
  blamed hne e left h := by
    rcases bind_eq_error.1 h with h | ⟨a, mid, hmid, h⟩
    · exact hx.blamed hne e left h
    · obtain ⟨hmidne, hsuffix⟩ := horderly.suffix hne hmid
      exact ((hf a).blamed hmidne).of_suffix hsuffix e left h

/-- What comes next is chosen by the first token left. -/
theorem current_bind {f : Token → TokenReader β}
    (h : ∀ t more, Blamed (t :: more) (f t (t :: more))) : Blames (current >>= f) where
  blamed {tokens} hne := by
    obtain ⟨t, more, rfl⟩ := List.exists_cons_of_ne_nil hne
    exact h t more

theorem advance : Blames advance where
  blamed {tokens} hne _ _ h := by
    obtain ⟨t, more, rfl⟩ := List.exists_cons_of_ne_nil hne
    cases h

/-- A refusal that could be at any token. -/
theorem refuse {fault : Malformation} (h : ∀ t, fault.At t) :
    Blames (refuse fault : TokenReader α) where
  blamed {tokens} hne := by
    obtain ⟨t, more, rfl⟩ := List.exists_cons_of_ne_nil hne
    exact blamed_refuse (h t) more

theorem expect (wanted : Token) : Blames (expect wanted) := by
  refine current_bind fun t more ↦ ?_
  split
  · exact advance.blamed (List.cons_ne_nil t more)
  · refine blamed_refuse ?_ more
    rfl

theorem accept (wanted : Token) : Blames (accept wanted) := by
  refine current_bind fun t more ↦ ?_
  split
  · exact (bind advance Orderly.advance fun _ ↦ pure true).blamed (List.cons_ne_nil t more)
  · exact (pure false).blamed (List.cons_ne_nil t more)

theorem one {read : Token → Except Malformation α}
    (hread : ∀ {t fault}, read t = .error fault → fault.At t) : Blames (one read) where
  blamed {tokens} hne e left h := by
    obtain ⟨t, more, rfl⟩ := List.exists_cons_of_ne_nil hne
    simp only [TokenReader.one] at h
    split at h
    · cases h
    · next fault hfault => exact blamed_refuse (hread hfault) more e left h

theorem commaList {read : Token → Except Malformation α}
    (hread : ∀ {t fault}, read t = .error fault → fault.At t) : Blames (commaList read) where
  blamed {tokens} hne e left h := by
    fun_induction TokenReader.commaList read tokens with
    | case1 => exact absurd rfl hne
    | case2 t rest fault hfault => exact blamed_refuse (α := List α) (hread hfault) rest e left h
    | case3 => cases h
    | case4 t a hreadt more e' left' hlist ih =>
      cases h
      obtain ⟨fault, found, more', he, hleft, hsuffix, hfault⟩ := ih (past_ne_nil (by simp)) hlist
      exact ⟨fault, found, more', he, hleft,
        (hsuffix.trans (past_suffix _)).trans (List.suffix_cons _ _), hfault⟩
    | case5 => cases h

/-! ### The readers made of them -/

theorem asName {t : Token} {fault : Malformation} (h : asName t = .error fault) : fault.At t := by
  cases t <;> cases h <;> rfl

theorem asLiteral {t : Token} {fault : Malformation} (h : asLiteral t = .error fault) :
    fault.At t := by
  cases t <;> cases h <;> rfl

theorem asRelation {t : Token} {fault : Malformation} (h : asRelation t = .error fault) :
    fault.At t := by
  unfold TokenReader.asRelation at h
  split at h
  · split at h <;> cases h
    next hnone => exact ⟨rfl, hnone⟩
  · cases h
    rfl

theorem asOperand {t : Token} {fault : Malformation} (h : asOperand t = .error fault) :
    fault.At t := by
  cases t <;> cases h <;> rfl

theorem name : Blames (TokenReader.one TokenReader.asName) := one asName

theorem names : Blames (TokenReader.commaList TokenReader.asName) := commaList asName

/-- Of the three tokens of a comparison each can be refused. -/
theorem comparison : Blames comparison :=
  bind name (.one Orderly.asName) fun _ ↦ bind (one asRelation) (.one Orderly.asRelation) fun _ ↦
    bind (one asOperand) (.one Orderly.asOperand) fun _ ↦ pure _

theorem furtherComparisons : Blames furtherComparisons where
  blamed {tokens} hne e left h := by
    fun_induction TokenReader.furtherComparisons tokens with
    | case1 => exact absurd rfl hne
    | case2 rest e' mid hcomparison =>
      cases h
      exact (comparison.blamed (past_ne_nil hne)).of_suffix (past_suffix _) _ _ hcomparison
    | case3 => cases h
    | case4 rest c mid e' left' hrest hcomparison ih =>
      cases h
      obtain ⟨hmid, hmidsuffix⟩ := Orderly.comparison.suffix (past_ne_nil hne) hcomparison
      obtain ⟨fault, found, more, he, hleft, hsuffix, hfault⟩ := ih hmid hrest
      exact ⟨fault, found, more, he, hleft,
        hsuffix.trans (hmidsuffix.trans (past_suffix _)), hfault⟩
    | case5 => cases h

theorem comparisons : Blames comparisons := by
  refine bind (accept _) (Orderly.accept _) fun found ↦ ?_
  cases found with
  | false => exact pure []
  | true =>
    exact bind comparison .comparison fun _ ↦
      bind furtherComparisons .furtherComparisons fun _ ↦ pure _

theorem selection : Blames selection := by
  refine bind (accept _) (Orderly.accept _) fun found ↦ ?_
  cases found with
  | false => exact bind names (.commaList Orderly.asName) fun _ ↦ pure _
  | true => exact pure Selection.all

theorem query : Blames query := by
  refine bind (expect _) (.expect _) fun _ ↦ bind selection .selection fun _ ↦
    bind (expect _) (.expect _) fun _ ↦ bind names (.commaList Orderly.asName) fun tables ↦ ?_
  split
  · exact bind (refuse fun _ ↦ trivial) (.refuse trivial) fun _ ↦
      bind comparisons .comparisons fun _ ↦ pure _
  · exact bind comparisons .comparisons fun _ ↦ pure _

theorem contents : Blames contents := by
  refine current_bind fun t more ↦ Blames.blamed ?_ (List.cons_ne_nil t more)
  split
  · exact bind advance .advance fun _ ↦ bind names (.commaList Orderly.asName) fun _ ↦
      bind (expect _) (.expect _) fun _ ↦ pure _
  · exact bind advance .advance fun _ ↦ bind query .query fun _ ↦ pure _
  · exact refuse fun _ ↦ trivial

/-- **A statement is refused for a fault at the token where reading stops.** -/
theorem statement : Blames statement := by
  refine current_bind fun t more ↦ ?_
  have hne : t :: more ≠ [] := List.cons_ne_nil t more
  have hname : Orderly (TokenReader.one TokenReader.asName) := .one Orderly.asName
  split
  · exact (bind advance .advance fun _ ↦ bind (expect _) (.expect _) fun _ ↦
      bind name hname fun _ ↦ bind contents .contents fun _ ↦ pure _).blamed hne
  · exact (bind advance .advance fun _ ↦ bind name hname fun _ ↦ pure _).blamed hne
  · exact (bind advance .advance fun _ ↦ bind name hname fun _ ↦ pure _).blamed hne
  · exact (bind advance .advance fun _ ↦ bind (expect _) (.expect _) fun _ ↦
      bind name hname fun _ ↦ bind (expect _) (.expect _) fun _ ↦
        bind (commaList asLiteral) (.commaList Orderly.asLiteral) fun _ ↦ pure _).blamed hne
  · exact (bind advance .advance fun _ ↦ bind name hname fun _ ↦ pure _).blamed hne
  · exact (bind query .query fun _ ↦ pure _).blamed hne
  · exact (bind advance .advance fun _ ↦ pure _).blamed hne
  · exact (bind advance .advance fun _ ↦ pure _).blamed hne
  · refine blamed_refuse ?_ more
    rfl

/-- What comes after a statement is refused for a fault at the token where reading stops, too. -/
theorem wholeStatement : Blames wholeStatement := by
  refine bind statement .statement fun s ↦ bind (expect _) (.expect _) fun _ ↦
    current_bind fun t more ↦ ?_
  split
  · exact (pure s).blamed (List.cons_ne_nil t more)
  · refine blamed_refuse ?_ more
    rfl

end Blames

end TokenReader

namespace Statement

/-- **Tokens are refused for a fault at one of them.** -/
theorem exists_token_of_error {tokens : List Token} {fault : Malformation} (hne : tokens ≠ [])
    (h : ofTokens tokens = .error (.malformed fault)) : ∃ found ∈ tokens, fault.At found := by
  unfold ofTokens at h
  split at h
  · cases h
  · next hwhole =>
    cases h
    obtain ⟨fault, found, more, ⟨⟩, rfl, hsuffix, hfault⟩ :=
      TokenReader.Blames.wholeStatement.blamed hne _ _ hwhole
    exact ⟨found, hsuffix.subset List.mem_cons_self, hfault⟩

end Statement

/-- **A text holds no symbols of relations that there are not.** -/
theorem Token.exists_relation_of_ofText {text symbol : String} {ts : List Token}
    (h : ofText text = .ok ts) (hmem : .relation symbol ∈ ts) :
    ∃ r, Relation.ofSymbol? symbol = some r := by
  obtain ⟨us, rfl, hreads⟩ := ofText_eq_ok_iff.1 h
  have hmem' : .relation symbol ∈ us := by simpa using hmem
  obtain ⟨lexeme, hlexeme⟩ := hreads.exists_lexeme hmem'
  generalize ht : Token.relation symbol = t at hlexeme
  cases hlexeme with
  | relation r =>
    cases ht
    exact ⟨r, Relation.ofSymbol?_eq_some_iff.2 rfl⟩
  | @symbol c _ hc =>
    subst ht
    unfold ofSymbol? at hc
    split at hc <;> cases hc
  | literal => cases ht
  | word =>
    unfold ofWord at ht
    split at ht <;> cases ht

/-- **No text is refused for a relation that is unknown.** -/
theorem Statement.ne_unknownRelation {text : String} {ts : List Token}
    (hts : Token.ofText text = .ok ts) (symbol : String) :
    ofTokens ts ≠ .error (.malformed (.unknownRelation symbol)) := by
  intro h
  have hne : ts ≠ [] := by
    obtain ⟨us, rfl, -⟩ := Token.ofText_eq_ok_iff.1 hts
    simp
  obtain ⟨found, hmem, rfl, hnone⟩ := exists_token_of_error hne h
  obtain ⟨r, hr⟩ := Token.exists_relation_of_ofText hts hmem
  rw [hnone] at hr
  cases hr

end Tabular
