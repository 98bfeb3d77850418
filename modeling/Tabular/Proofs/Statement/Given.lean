import Tabular.Proofs.Statement.Refusal
import Tabular.Proofs.Token.Lexeme

/-!
# Texts that statements bring in

A statement brings texts into a database where it lists the columns of a new table or the values of
a new row (`Statement.given`). Each of them is the text of one of the tokens that the statement was
read from (`Statement.exists_token_of_given`), and so it is made of characters that words or
literals are made of: none of them separates fields or ends a line (`Statement.given_ofText`).

Readers are looked at only as far as they find texts (`TokenReader.Finds`): if all tokens have a
property then what is found has another. That the tokens left over have it still is because they are
an end of those that were given (`TokenReader.Orderly`).

## Three separators

`isSeparator` is about commas, line feeds and carriage returns together. Commas and line feeds would
cut fields and lines of a table's file, and a carriage return would be lost at the end of a line.
Words hold none of the three because they are made of letters, digits and underscores, and literals
because reading one stops there.
-/

namespace Tabular

/-- The text that a token holds, if it holds one of its own. -/
def Token.text? : Token → Option String
  | ident name => some name
  | literal value => some value
  | _ => none

/-- The texts that a statement brings into the database. -/
def Statement.given : Statement → List String
  | create _ (.columns titles) => titles
  | insert _ values => values
  | _ => []

/-! ### Texts of tokens -/

/-- The characters that separate fields and end lines. -/
def isSeparator (c : Char) : Bool :=
  c == ',' || c == '\n' || c == '\r'

theorem not_isSeparator_of_isWordChar {c : Char} (h : isWordChar c = true) :
    isSeparator c = false := by
  rw [Bool.eq_false_iff]
  intro hsep
  simp only [isSeparator, Bool.or_eq_true, beq_iff_eq] at hsep
  rcases hsep with (rfl | rfl) | rfl <;> exact absurd h (by decide)

theorem not_isSeparator_of_isLiteralChar {c : Char} (h : isLiteralChar c = true) :
    isSeparator c = false := by
  rw [Bool.eq_false_iff]
  intro hsep
  simp only [isSeparator, Bool.or_eq_true, beq_iff_eq] at hsep
  rcases hsep with (rfl | rfl) | rfl <;> exact absurd h (by decide)

namespace Token

/-- The text of a token stands in its lexeme, and no separator stands in it. -/
theorem Lexeme.not_isSeparator {t : Token} {lexeme : List Char} (h : Lexeme t lexeme)
    {text : String} (htext : t.text? = some text) : ∀ c ∈ text.toList, isSeparator c = false := by
  cases h with
  | @symbol c t h =>
    unfold ofSymbol? at h
    split at h <;> cases h <;> cases htext
  | relation r => cases htext
  | @literal value h =>
    cases htext
    rw [String.toList_ofList]
    exact fun c hc ↦ not_isSeparator_of_isLiteralChar (h c hc)
  | @word c cs h =>
    unfold ofWord at htext
    split at htext
    · cases htext
    · cases htext
      rw [String.toList_ofList]
      exact fun d hd ↦ not_isSeparator_of_isWordChar (h d hd)

/-- **No token of any text holds a separator.** -/
theorem not_isSeparator_of_ofText {s : String} {ts : List Token} (h : ofText s = .ok ts) {t : Token}
    (ht : t ∈ ts) {text : String} (htext : t.text? = some text) :
    ∀ c ∈ text.toList, isSeparator c = false := by
  obtain ⟨us, rfl, hreads⟩ := ofText_eq_ok_iff.1 h
  have hmem : t ∈ us := by
    rcases List.mem_append.1 ht with ht | ht
    · exact ht
    · rw [List.mem_singleton.1 ht] at htext
      cases htext
  obtain ⟨lexeme, hlexeme⟩ := hreads.exists_lexeme hmem
  exact hlexeme.not_isSeparator htext

end Token

/-! ### Texts that readers find -/

namespace TokenReader

variable {α β : Type}

/-- What the reader finds in tokens from a collection has the property. -/
structure Finds (P : Token → Prop) (x : TokenReader α) (Q : α → Prop) : Prop where
  of_eq_ok {tokens left : List Token} {a : α} (hne : tokens ≠ []) (hP : ∀ t ∈ tokens, P t)
    (h : x tokens = .ok a left) : Q a

namespace Finds

variable {P : Token → Prop}

/-- Of any finding at all it can be said that it has been found. -/
theorem any (x : TokenReader α) : Finds P x fun _ ↦ True :=
  ⟨fun _ _ _ ↦ trivial⟩

theorem pure {a : α} {Q : α → Prop} (h : Q a) : Finds P (Pure.pure a : TokenReader α) Q where
  of_eq_ok _ _ h' := by
    cases h'
    exact h

/-- What an orderly reader leaves is still from the collection. -/
theorem bind {x : TokenReader α} {f : α → TokenReader β} {Q : α → Prop} {R : β → Prop}
    (hx : Finds P x Q) (horderly : Orderly x) (hf : ∀ a, Q a → Finds P (f a) R) :
    Finds P (x >>= f) R where
  of_eq_ok hne hP h := by
    obtain ⟨a, mid, hmid, h⟩ := bind_eq_ok.1 h
    obtain ⟨hmidne, hsuffix⟩ := horderly.suffix hne hmid
    have hmidP : ∀ t ∈ mid, P t := fun t ht ↦ hP t (hsuffix.subset ht)
    exact (hf a (hx.of_eq_ok hne hP hmid)).of_eq_ok hmidne hmidP h

/-- A reader whose finding does not matter. -/
theorem skip {x : TokenReader α} {f : α → TokenReader β} {R : β → Prop} (horderly : Orderly x)
    (hf : ∀ a, Finds P (f a) R) : Finds P (x >>= f) R :=
  bind (any x) horderly fun a _ ↦ hf a

theorem refuse {fault : Malformation} {Q : α → Prop} :
    Finds P (refuse fault : TokenReader α) Q where
  of_eq_ok _ _ h := by cases h

/-- The items of a list are what its tokens are read as. -/
theorem commaList {read : Token → Except Malformation α} :
    Finds P (commaList read) fun as ↦ ∀ a ∈ as, ∃ t, P t ∧ read t = .ok a where
  of_eq_ok {tokens left as} hne hP h := by
    fun_induction TokenReader.commaList read tokens generalizing as with
    | case1 => cases h
    | case2 => cases h
    | case3 t a hread more as' left' hlist ih =>
      cases h
      have hmore : ∀ u ∈ past (.comma :: more), P u :=
        fun u hu ↦ hP u (List.mem_cons_of_mem t ((past_suffix _).subset hu))
      rw [List.forall_mem_cons]
      exact ⟨⟨t, hP t (by simp), hread⟩, ih (past_ne_nil (by simp)) hmore hlist⟩
    | case4 => cases h
    | case5 t rest a hread =>
      cases h
      simpa using ⟨t, hP t (by simp), hread⟩

end Finds

theorem text?_of_asName {t : Token} {name : String} (h : asName t = .ok name) :
    t.text? = some name := by
  cases t <;> cases h
  rfl

theorem text?_of_asLiteral {t : Token} {value : String} (h : asLiteral t = .ok value) :
    t.text? = some value := by
  cases t <;> cases h
  rfl

namespace Finds

variable {P : Token → Prop}

/-- The columns of a new table are names of tokens. -/
theorem contents (name : String) : Finds P contents fun contents ↦
    ∀ text ∈ (Statement.create name contents).given, ∃ t, P t ∧ t.text? = some text := by
  refine skip Orderly.current fun found ↦ ?_
  split
  · refine skip Orderly.advance fun _ ↦
      bind commaList (Orderly.commaList Orderly.asName) fun titles htitles ↦
        skip (Orderly.expect _) fun _ ↦ pure fun text htext ↦ ?_
    obtain ⟨t, ht, hread⟩ := htitles text htext
    exact ⟨t, ht, text?_of_asName hread⟩
  · exact skip Orderly.advance fun _ ↦ skip Orderly.query fun q ↦ pure (by simp [Statement.given])
  · exact refuse

/-- **What a statement brings in are texts of tokens.** -/
theorem statement : Finds P statement fun s ↦ ∀ text ∈ s.given, ∃ t, P t ∧ t.text? = some text := by
  have hname : Orderly (one asName) := Orderly.one Orderly.asName
  refine skip Orderly.current fun found ↦ ?_
  split
  · exact skip Orderly.advance fun _ ↦ skip (Orderly.expect _) fun _ ↦ skip hname fun name ↦
      bind (contents name) Orderly.contents fun contents hcontents ↦ pure hcontents
  · exact skip Orderly.advance fun _ ↦ skip hname fun name ↦ pure (by simp [Statement.given])
  · exact skip Orderly.advance fun _ ↦ skip hname fun name ↦ pure (by simp [Statement.given])
  · refine skip Orderly.advance fun _ ↦ skip (Orderly.expect _) fun _ ↦ skip hname fun table ↦
      skip (Orderly.expect _) fun _ ↦
        bind commaList (Orderly.commaList Orderly.asLiteral) fun values hvalues ↦
          pure fun text htext ↦ ?_
    obtain ⟨t, ht, hread⟩ := hvalues text htext
    exact ⟨t, ht, text?_of_asLiteral hread⟩
  · exact skip Orderly.advance fun _ ↦ skip hname fun name ↦ pure (by simp [Statement.given])
  · exact skip Orderly.query fun q ↦ pure (by simp [Statement.given])
  · exact skip Orderly.advance fun _ ↦ pure (by simp [Statement.given])
  · exact skip Orderly.advance fun _ ↦ pure (by simp [Statement.given])
  · exact refuse

end Finds

end TokenReader

namespace Statement

theorem exists_token_of_given {tokens : List Token} {s : Statement} (hne : tokens ≠ [])
    (h : ofTokens tokens = .ok s) {text : String} (htext : text ∈ s.given) :
    ∃ t ∈ tokens, t.text? = some text := by
  unfold ofTokens at h
  split at h
  · next s' left hwhole =>
    cases h
    obtain ⟨s', mid, hstatement, hend⟩ := TokenReader.bind_eq_ok.1 hwhole
    have hfound := (TokenReader.Finds.statement (P := (· ∈ tokens))).of_eq_ok hne (fun t ht ↦ ht)
      hstatement
    -- the semicolon and the end change nothing about the statement
    obtain ⟨_, mid', -, hend⟩ := TokenReader.bind_eq_ok.1 hend
    obtain ⟨found, mid'', -, hend⟩ := TokenReader.bind_eq_ok.1 hend
    split at hend <;> cases hend
    exact hfound text htext
  · cases h

/-- **No separator is brought in by a statement that was read from text.** -/
theorem given_ofText {s : String} {statement : Statement}
    (h : Token.ofText s >>= ofTokens = .ok statement) {text : String}
    (htext : text ∈ statement.given) : ∀ c ∈ text.toList, isSeparator c = false := by
  cases htokens : Token.ofText s with
  | error e =>
    rw [htokens] at h
    cases h
  | ok ts =>
    rw [htokens] at h
    obtain ⟨us, hts, -⟩ := Token.ofText_eq_ok_iff.1 htokens
    have hne : ts ≠ [] := by simp [hts]
    obtain ⟨t, ht, hmem⟩ := exists_token_of_given hne h htext
    exact Token.not_isSeparator_of_ofText htokens ht hmem

end Statement

end Tabular
