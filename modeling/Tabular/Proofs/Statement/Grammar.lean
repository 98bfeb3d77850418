import Mathlib.Data.List.Basic
import Tabular.Proofs.Statement.Refusal
import Tabular.Statement.Spelling

/-!
# Statements are read from their spellings

The tokens that a statement is spelled with are read as that statement, and nothing else is
(`Statement.ofTokens_eq_ok_iff`). A reader is described by what it takes from the front of the
tokens (`TokenReader.Takes`): tokens that spell what it finds, if it finds anything, and any tokens
that spell something, if what comes next cannot be taken for more of it. Both halves follow the
sequence of the readers.

The last token is never moved past, so a reader at the end of its tokens takes the same token again
and again (`TokenReader.Took`). This makes no difference to whole statements: a statement ends in
two tokens that are not the same.

Each reader is described once, by the tokens that spell what it finds (`spells`) and by the token
that may follow them (`follows`). The last is what makes a grammar of lists readable from left to
right: behind a list of names there may be anything but a comma, and behind a query anything but
what would go on with its comparisons. The rules that put readers together
(`TokenReader.Takes.bind`, `expect_bind`, `accept_bind`, `current_bind`) ask for no more than that
the second may follow the first.

## What the parts rest on

* `TokenReader.Takes.commaList`: a list is taken up to the item that no comma follows, so it is the
  token behind a list that decides that it is complete.
* `TokenReader.Takes.furtherComparisons` is the same for `and`, with items of three tokens.
* `TokenReader.Takes.current_bind`: statements and contents are chosen by their first token, and no
  two kinds of them begin alike.
* `Statement.ofTokens_spelled` puts the two halves together. That no tokens spell two statements is
  not an induction over spellings: both would be read from the same tokens, and reading has one
  outcome.
-/

namespace Tabular

/-- A statement is spelled with its own tokens, and the end of a session also with `quit`. -/
theorem Statement.spelled_iff {s : Statement} {taken : List Token} :
    s.Spelled taken ↔
      (s.Spellable ∧ taken = s.tokens) ∨ s = .exit ∧ taken = [.keyword .quit] := by
  constructor
  · rintro (h | _)
    · exact .inl ⟨h, rfl⟩
    · exact .inr ⟨rfl, rfl⟩
  · rintro (⟨h, rfl⟩ | ⟨rfl, rfl⟩)
    · exact .tokens h
    · exact .quit

/-- Every statement begins with one of eight keywords. -/
theorem Statement.Spelled.exists_keyword {s : Statement} {taken : List Token}
    (h : s.Spelled taken) : ∃ k, taken.head? = some (.keyword k) ∧
      k ∈ [.create, .load, .store, .insert, .print, .select, .exit, .quit] := by
  cases h with
  | tokens h => cases s <;> exact ⟨_, rfl, by decide⟩
  | quit => exact ⟨.quit, rfl, by decide⟩

namespace TokenReader

variable {α β : Type}

/-! ### What readers take -/

/-- The reader has taken these tokens. The last one of all is left although it was taken, and is
taken once more by whatever reads on. -/
def Took (taken tokens left : List Token) : Prop :=
  tokens = taken ++ left ∨ ∃ t, taken.getLast? = some t ∧ left = [t]

theorem Took.refl (tokens : List Token) : Took [] tokens tokens :=
  .inl rfl

/-- Moving past a token takes it, also where the token is left because it is the last. -/
theorem took_past (t : Token) (rest : List Token) : Took [t] (t :: rest) (past (t :: rest)) := by
  cases rest with
  | nil => exact .inr ⟨t, rfl, rfl⟩
  | cons u rest => exact .inl rfl

/-- What was taken by one reader after another. -/
theorem Took.append {taken taken' tokens mid left : List Token} (h : Took taken tokens mid)
    (h' : Took taken' mid left) (hleft : left ≠ []) : Took (taken ++ taken') tokens left := by
  rcases h' with rfl | ⟨t, ht, rfl⟩
  · rcases h with rfl | ⟨t, ht, hmid⟩
    · exact .inl (List.append_assoc ..).symm
    · -- only the last token was left: the second reader took nothing, for it leaves something
      rcases List.append_eq_singleton_iff.1 hmid with ⟨rfl, rfl⟩ | ⟨-, rfl⟩
      · exact .inr ⟨t, by rwa [List.append_nil], rfl⟩
      · exact absurd rfl hleft
  · exact .inr ⟨t, by rw [List.getLast?_append, ht]; rfl, rfl⟩

/-- The reader takes exactly the tokens that spell what it finds, as long as the token after them
may follow. -/
structure Takes (x : TokenReader α) (spells : α → List Token → Prop) (follows : Token → Prop) :
    Prop where
  sound {tokens left : List Token} {a : α} (hne : tokens ≠ []) (h : x tokens = .ok a left) :
    left ≠ [] ∧ ∃ taken, spells a taken ∧ Took taken tokens left
  complete {a : α} {taken : List Token} {next : Token} (h : spells a taken) (hnext : follows next)
    (rest : List Token) : x (taken ++ next :: rest) = .ok a (next :: rest)

theorem bind_of_eq_ok {x : TokenReader α} {f : α → TokenReader β} {tokens mid : List Token} {a : α}
    (h : x tokens = .ok a mid) : (x >>= f) tokens = f a mid := by
  change EStateM.bind x f tokens = _
  rw [EStateM.bind, h]

theorem past_append_cons (t : Token) (more : List Token) (next : Token) (rest : List Token) :
    past (t :: (more ++ next :: rest)) = more ++ next :: rest := by
  cases more <;> rfl

theorem accept_cons (wanted t : Token) (rest : List Token) :
    accept wanted (t :: rest) =
      if t = wanted then .ok true (past (t :: rest)) else .ok false (t :: rest) := by
  show (if t = wanted then (do advance; return true) else return false : TokenReader Bool)
    (t :: rest) = _
  split <;> rfl

theorem expect_cons_self (t : Token) (rest : List Token) :
    expect t (t :: rest) = .ok () (past (t :: rest)) := by
  show (if t = t then advance else refuse (.expected t t)) (t :: rest) = _
  rw [if_pos rfl]
  rfl

/-- A token that was looked at is moved past as if it were expected. -/
theorem advance_bind_cons (k : Unit → TokenReader α) (t : Token) (rest : List Token) :
    (advance >>= k) (t :: rest) = (expect t >>= k) (t :: rest) := by
  rw [bind_of_eq_ok (expect_cons_self t rest)]
  rfl

theorem asName_eq_ok_iff {t : Token} {name : String} : asName t = .ok name ↔ t = .ident name := by
  cases t <;> simp [asName]

theorem asLiteral_eq_ok_iff {t : Token} {value : String} :
    asLiteral t = .ok value ↔ t = .literal value := by
  cases t <;> simp [asLiteral]

theorem asRelation_eq_ok_iff {t : Token} {r : Relation} :
    asRelation t = .ok r ↔ t = .relation r.symbol := by
  cases t
  case relation symbol =>
    rw [Token.relation.injEq, eq_comm (a := symbol), ← Relation.ofSymbol?_eq_some_iff, asRelation]
    cases Relation.ofSymbol? symbol <;> simp
  all_goals simp [asRelation]

/-- An operand is spelled with one token, a name or a literal, and read from that. -/
theorem asOperand_eq_ok_iff {t : Token} {operand : Operand} :
    asOperand t = .ok operand ↔ [t] = operand.tokens := by
  cases t <;> cases operand <;> simp [asOperand, Operand.tokens]

namespace Takes

variable {spells spells' : α → List Token → Prop} {follows follows' : Token → Prop}

theorem congr {x : TokenReader α} (h : Takes x spells follows)
    (hspells : ∀ a taken, spells' a taken ↔ spells a taken) : Takes x spells' follows := by
  have heq : spells' = spells := funext fun a ↦ funext fun taken ↦ propext (hspells a taken)
  rwa [heq]

/-- A reader that may be followed by some tokens may be followed by fewer. -/
theorem mono {x : TokenReader α} (h : Takes x spells follows)
    (hfollows : ∀ t, follows' t → follows t) : Takes x spells follows' :=
  ⟨h.sound, fun ha hnext ↦ h.complete ha (hfollows _ hnext)⟩

/-! ### Readers one after the other -/

theorem pure (a : α) : Takes (Pure.pure a) (fun b taken ↦ b = a ∧ taken = []) follows where
  sound hne h := by
    cases h
    exact ⟨hne, [], ⟨rfl, rfl⟩, .refl _⟩
  complete := by
    rintro _ _ next ⟨rfl, rfl⟩ - rest
    rfl

/-- What is refused spells nothing. -/
theorem refuse {fault : Malformation} (h : ∀ a taken, ¬ spells a taken) :
    Takes (refuse fault) spells follows where
  sound _ h' := by cases h'
  complete h' := absurd h' (h _ _)

theorem refuse_bind {fault : Malformation} {f : β → TokenReader α}
    (h : ∀ a taken, ¬ spells a taken) : Takes (TokenReader.refuse fault >>= f) spells follows where
  sound _ h' := by cases h'
  complete h' := absurd h' (h _ _)

/-- One reader and then another, where what the second one takes may follow the first. -/
theorem bind {x : TokenReader α} {f : α → TokenReader β} {spellsNext : α → β → List Token → Prop}
    (hx : Takes x spells follows) (hf : ∀ a, Takes (f a) (spellsNext a) follows')
    (hfollows : ∀ {a b taken next}, spellsNext a b taken → follows' next →
      ∀ t ∈ (taken ++ [next]).head?, follows t) :
    Takes (x >>= f)
      (fun b taken ↦ ∃ a first second, spells a first ∧ spellsNext a b second ∧
        taken = first ++ second) follows' where
  sound hne h := by
    obtain ⟨a, mid, hmid, h⟩ := bind_eq_ok.1 h
    obtain ⟨hmidne, first, hfirst, htook⟩ := hx.sound hne hmid
    obtain ⟨hleft, second, hsecond, htook'⟩ := (hf a).sound hmidne h
    exact ⟨hleft, first ++ second, ⟨a, first, second, hfirst, hsecond, rfl⟩,
      htook.append htook' hleft⟩
  complete := by
    rintro b _ next ⟨a, first, second, hfirst, hsecond, rfl⟩ hnext rest
    have hsplit : ∃ t more, second ++ next :: rest = t :: more ∧ follows t := by
      cases second with
      | nil => exact ⟨next, rest, rfl, hfollows hsecond hnext next rfl⟩
      | cons t second => exact ⟨t, _, rfl, hfollows hsecond hnext t rfl⟩
    obtain ⟨t, more, heq, ht⟩ := hsplit
    rw [List.append_assoc, heq, bind_of_eq_ok (hx.complete hfirst ht more), ← heq]
    exact (hf a).complete hsecond hnext rest

/-- A reader of whose finding something is made. -/
theorem map {x : TokenReader α} (hx : Takes x spells follows) (g : α → β) :
    Takes (x >>= fun a ↦ Pure.pure (g a))
      (fun b taken ↦ ∃ a, spells a taken ∧ b = g a) follows := by
  refine (hx.bind (fun a ↦ pure (g a)) ?_).congr fun b taken ↦ ?_
  · rintro _ _ _ next ⟨-, rfl⟩ hnext _ ⟨rfl⟩
    exact hnext
  · constructor
    · rintro ⟨a, h, rfl⟩
      exact ⟨a, taken, [], h, ⟨rfl, rfl⟩, (List.append_nil taken).symm⟩
    · rintro ⟨a, first, _, h, ⟨rfl, rfl⟩, rfl⟩
      exact ⟨a, by rwa [List.append_nil], rfl⟩

/-- A token of its own kind, and then a reader. -/
theorem one_bind {read : Token → Except Malformation α} {f : α → TokenReader β}
    {spellsNext : α → β → List Token → Prop} (hf : ∀ a, Takes (f a) (spellsNext a) follows) :
    Takes (one read >>= f)
      (fun b taken ↦ ∃ a t more, read t = .ok a ∧ spellsNext a b more ∧ taken = t :: more)
      follows where
  sound hne h := by
    obtain ⟨a, mid, hmid, h⟩ := bind_eq_ok.1 h
    obtain ⟨t, rest, rfl, ht, rfl⟩ := one_eq_ok hmid
    obtain ⟨hleft, more, hmore, htook⟩ := (hf a).sound (past_ne_nil hne) h
    exact ⟨hleft, t :: more, ⟨a, t, more, ht, hmore, rfl⟩, (took_past t rest).append htook hleft⟩
  complete := by
    rintro b _ next ⟨a, t, more, ht, hmore, rfl⟩ hnext rest
    have hone : one read (t :: (more ++ next :: rest)) = .ok a (more ++ next :: rest) := by
      rw [one, ht, past_append_cons]
    rw [List.cons_append, bind_of_eq_ok hone]
    exact (hf a).complete hmore hnext rest

/-- A given token, and then a reader. -/
theorem expect_bind {wanted : Token} {f : Unit → TokenReader α}
    (hf : Takes (f ()) spells follows) :
    Takes (expect wanted >>= f) (fun a taken ↦ ∃ more, spells a more ∧ taken = wanted :: more)
      follows where
  sound hne h := by
    obtain ⟨_, mid, hmid, h⟩ := bind_eq_ok.1 h
    obtain ⟨rest, rfl, rfl⟩ := expect_eq_ok hmid
    obtain ⟨hleft, more, hmore, htook⟩ := hf.sound (past_ne_nil hne) h
    exact ⟨hleft, wanted :: more, ⟨more, hmore, rfl⟩, (took_past wanted rest).append htook hleft⟩
  complete := by
    rintro a _ next ⟨more, hmore, rfl⟩ hnext rest
    rw [List.cons_append, bind_of_eq_ok (expect_cons_self ..), past_append_cons]
    exact hf.complete hmore hnext rest

/-- A token that may be there, and then one reader or another. -/
theorem accept_bind {wanted : Token} {f : Bool → TokenReader α}
    (htrue : Takes (f true) spells follows) (hfalse : Takes (f false) spells' follows)
    (hother : ∀ {a taken next}, spells' a taken → follows next →
      (taken ++ [next]).head? ≠ some wanted) :
    Takes (accept wanted >>= f)
      (fun a taken ↦ (∃ more, spells a more ∧ taken = wanted :: more) ∨ spells' a taken)
      follows where
  sound {tokens left a} hne h := by
    obtain ⟨t, rest, rfl⟩ := List.exists_cons_of_ne_nil hne
    by_cases ht : t = wanted
    · subst ht
      rw [bind_of_eq_ok ((accept_cons t t rest).trans (if_pos rfl))] at h
      obtain ⟨hleft, more, hmore, htook⟩ := htrue.sound (past_ne_nil hne) h
      exact ⟨hleft, t :: more, .inl ⟨more, hmore, rfl⟩, (took_past t rest).append htook hleft⟩
    · rw [bind_of_eq_ok ((accept_cons wanted t rest).trans (if_neg ht))] at h
      obtain ⟨hleft, taken, htaken, htook⟩ := hfalse.sound hne h
      exact ⟨hleft, taken, .inr htaken, htook⟩
  complete := by
    rintro a taken next (⟨more, hmore, rfl⟩ | htaken) hnext rest
    · rw [List.cons_append, bind_of_eq_ok ((accept_cons wanted wanted _).trans (if_pos rfl)),
        past_append_cons]
      exact htrue.complete hmore hnext rest
    · have hsplit : ∃ t more, taken ++ next :: rest = t :: more ∧ t ≠ wanted := by
        have hhead := hother htaken hnext
        cases taken with
        | nil => exact ⟨next, rest, rfl, fun heq ↦ hhead (congrArg some heq)⟩
        | cons t taken => exact ⟨t, _, rfl, fun heq ↦ hhead (congrArg some heq)⟩
      obtain ⟨t, more, heq, ht⟩ := hsplit
      rw [heq, bind_of_eq_ok ((accept_cons wanted t more).trans (if_neg ht)), ← heq]
      exact hfalse.complete htaken hnext rest

/-- A reader that is chosen by the first token. -/
theorem current_bind {f : Token → TokenReader α} (hne : ∀ a, ¬ spells a [])
    (hf : ∀ t, ∃ x : TokenReader α, (∀ rest, f t (t :: rest) = x (t :: rest)) ∧
      Takes x (fun a taken ↦ spells a taken ∧ taken.head? = some t) follows) :
    Takes (current >>= f) spells follows where
  sound {tokens left a} htokens h := by
    obtain ⟨t, rest, rfl⟩ := List.exists_cons_of_ne_nil htokens
    obtain ⟨x, hx, htakes⟩ := hf t
    rw [bind_of_eq_ok (show current (t :: rest) = .ok t (t :: rest) from rfl), hx] at h
    obtain ⟨hleft, taken, ⟨htaken, -⟩, htook⟩ := htakes.sound htokens h
    exact ⟨hleft, taken, htaken, htook⟩
  complete {a taken next} h hnext rest := by
    obtain ⟨t, more, rfl⟩ := List.exists_cons_of_ne_nil fun hnil ↦ hne a (hnil ▸ h)
    obtain ⟨x, hx, htakes⟩ := hf t
    have hcurrent : current (t :: more ++ next :: rest) = .ok t (t :: more ++ next :: rest) := rfl
    rw [bind_of_eq_ok hcurrent, List.cons_append, hx]
    exact htakes.complete ⟨h, rfl⟩ hnext rest

/-! ### The readers of statements -/

/-- A list of items, each written as one token. -/
theorem commaList {read : Token → Except Malformation α} {token : α → Token}
    (hread : ∀ {t a}, read t = .ok a ↔ t = token a) :
    Takes (commaList read) (fun as taken ↦ as ≠ [] ∧ taken = commaSeparated (as.map token))
      (· ≠ .comma) where
  sound {tokens left as} hne h := by
    fun_induction TokenReader.commaList read tokens generalizing as with
    | case1 => exact absurd rfl hne
    | case2 => cases h
    | case3 t a ht more as' left' hlist ih =>
      cases h
      obtain ⟨hleft, taken, ⟨has, rfl⟩, htook⟩ := ih (past_ne_nil (by simp)) hlist
      obtain ⟨b, as, rfl⟩ := List.exists_cons_of_ne_nil has
      rw [hread.1 ht]
      have hfirst : Took [token a, .comma] (token a :: .comma :: more) (past (.comma :: more)) :=
        (took_past (token a) (.comma :: more)).append (took_past .comma more)
          (past_ne_nil (by simp))
      exact ⟨hleft, _, ⟨by simp, rfl⟩, hfirst.append htook hleft⟩
    | case4 => cases h
    | case5 t rest a ht =>
      cases h
      rw [hread.1 ht]
      exact ⟨past_ne_nil (by simp), [token a], ⟨by simp, rfl⟩, took_past (token a) rest⟩
  complete := by
    rintro as _ next ⟨has, rfl⟩ hnext rest
    induction as with
    | nil => exact absurd rfl has
    | cons a as ih =>
      have ha : read (token a) = .ok a := hread.2 rfl
      cases as with
      | nil =>
        show TokenReader.commaList read (token a :: next :: rest) = _
        rw [TokenReader.commaList]
        simp only [ha]
        split
        · next more heq => exact absurd (List.cons.inj heq).1 hnext
        · rfl
      | cons b as =>
        show TokenReader.commaList read
          (token a :: .comma :: (commaSeparated ((b :: as).map token) ++ next :: rest)) = _
        rw [TokenReader.commaList]
        simp only [ha]
        rw [past_append_cons .comma, ih (by simp)]

/-- A list of names goes on as long as there is a comma. -/
theorem names : Takes (TokenReader.commaList asName)
    (fun names taken ↦ names ≠ [] ∧ taken = commaSeparated (names.map .ident)) (· ≠ .comma) :=
  commaList asName_eq_ok_iff

theorem literals : Takes (TokenReader.commaList asLiteral)
    (fun values taken ↦ values ≠ [] ∧ taken = commaSeparated (values.map .literal))
    (· ≠ .comma) :=
  commaList asLiteral_eq_ok_iff

theorem comparison : Takes comparison (fun c taken ↦ taken = c.tokens) fun _ ↦ True := by
  refine (one_bind fun column ↦ one_bind fun relation ↦ one_bind fun operand ↦ pure _).congr
    fun c taken ↦ ?_
  simp only [asName_eq_ok_iff, asRelation_eq_ok_iff, asOperand_eq_ok_iff]
  constructor
  · rintro rfl
    obtain ⟨t, ht⟩ : ∃ t, [t] = c.operand.tokens := by cases c.operand <;> exact ⟨_, rfl⟩
    exact ⟨_, _, _, rfl, ⟨_, _, _, rfl, ⟨_, t, _, ht, ⟨rfl, rfl⟩, rfl⟩, rfl⟩, by
      rw [Comparison.tokens, ht]⟩
  · rintro ⟨_, _, _, rfl, ⟨_, _, _, rfl, ⟨_, _, _, hoperand, ⟨rfl, rfl⟩, rfl⟩, rfl⟩, rfl⟩
    rw [Comparison.tokens, ← hoperand]

/-- Behind an `and` there is a comparison, and then further ones. -/
theorem furtherComparisons_and {tokens mid : List Token} {c : Comparison}
    (h : TokenReader.comparison tokens = .ok c mid) (hne : tokens ≠ []) :
    TokenReader.furtherComparisons (.keyword .and :: tokens) =
      match TokenReader.furtherComparisons mid with
      | .ok cs stop => .ok (c :: cs) stop
      | .error e stop => .error e stop := by
  have hpast : past (.keyword .and :: tokens) = tokens := by
    obtain ⟨t, rest, rfl⟩ := List.exists_cons_of_ne_nil hne
    rfl
  rw [TokenReader.furtherComparisons, if_pos rfl]
  split
  · next h' =>
    rw [hpast, h] at h'
    cases h'
  · next h' =>
    rw [hpast, h] at h'
    cases h'
    rfl

/-- Comparisons after the first, by induction on the tokens for what is read and on the comparisons
for what is spelled. -/
theorem furtherComparisons : Takes TokenReader.furtherComparisons
    (fun cs taken ↦ taken = furtherTokens cs) (· ≠ .keyword .and) where
  sound {tokens left cs} hne h := by
    fun_induction TokenReader.furtherComparisons tokens generalizing cs with
    | case1 => cases h
    | case2 => cases h
    | case3 rest c mid cs' left' hrest hcomparison ih =>
      cases h
      obtain ⟨hmid, first, rfl, htook⟩ := comparison.sound (past_ne_nil hne) hcomparison
      obtain ⟨hleft, more, rfl, htook'⟩ := ih hmid hrest
      have hand' : Took [.keyword .and] (.keyword .and :: rest) (past (.keyword .and :: rest)) :=
        took_past _ rest
      exact ⟨hleft, _, rfl, (hand'.append htook hmid).append htook' hleft⟩
    | case4 => cases h
    | case5 =>
      cases h
      exact ⟨hne, [], rfl, .refl _⟩
  complete := by
    rintro cs _ next rfl hnext rest
    induction cs with
    | nil =>
      show TokenReader.furtherComparisons (next :: rest) = _
      rw [TokenReader.furtherComparisons, if_neg hnext]
    | cons c cs ih =>
      have hsplit : furtherTokens (c :: cs) ++ next :: rest =
          .keyword .and :: (c.tokens ++ (furtherTokens cs ++ next :: rest)) := by
        simp [furtherTokens]
      -- whatever comes after a comparison, it is not taken for more of it
      obtain ⟨t, more, heq⟩ :=
        List.exists_cons_of_ne_nil (List.append_ne_nil_of_right_ne_nil (furtherTokens cs)
          (List.cons_ne_nil next rest))
      rw [hsplit, heq, furtherComparisons_and (comparison.complete rfl trivial more) (by simp),
        ← heq, ih]

/-- The comparisons of a query may be missing, with their keyword. -/
theorem comparisons : Takes comparisons (fun cs taken ↦ taken = whereTokens cs)
    fun t ↦ t ≠ .keyword .whereWord ∧ t ≠ .keyword .and := by
  have hothers (first : Comparison) :=
    (furtherComparisons.mono fun t (h : t ≠ .keyword .whereWord ∧ t ≠ .keyword .and) ↦ h.2).map
      (first :: ·)
  refine (accept_bind (comparison.bind hothers ?_) (pure []) ?_).congr fun cs taken ↦ ?_
  · exact fun _ _ _ _ ↦ trivial
  · rintro _ _ next ⟨-, rfl⟩ hnext heq
    exact hnext.1 (Option.some.inj heq)
  · cases cs with
    | nil => simp [whereTokens]
    | cons c cs => simp [whereTokens]

theorem selection : Takes selection
    (fun s taken ↦ s ≠ .columns [] ∧ taken = s.tokens) (· ≠ .comma) := by
  refine (accept_bind (pure Selection.all) (names.map Selection.columns) ?_).congr
    fun s taken ↦ ?_
  · rintro _ _ next ⟨titles, ⟨hne, rfl⟩, rfl⟩ -
    obtain ⟨title, titles, rfl⟩ := List.exists_cons_of_ne_nil hne
    cases titles <;> simp [commaSeparated]
  · cases s with
    | all => simp [Selection.tokens]
    | columns titles => simp [Selection.tokens]

/-- A query goes on as long as there is a comma, or a keyword of its conditions. -/
theorem query : Takes query (fun q taken ↦ q.Spellable ∧ taken = q.tokens)
    fun t ↦ t ≠ .comma ∧ t ≠ .keyword .whereWord ∧ t ≠ .keyword .and := by
  have hcomparisons (s : Selection) (tables : List String) : Takes
      (do
        if 2 < tables.length then TokenReader.refuse .tooManyTables
        let comparisons ← TokenReader.comparisons
        return { selection := s, tables, comparisons })
      (fun (q : Query) taken ↦
        tables.length ≤ 2 ∧ ∃ cs, taken = whereTokens cs ∧ q = ⟨s, tables, cs⟩)
      fun t ↦ t ≠ .comma ∧ t ≠ .keyword .whereWord ∧ t ≠ .keyword .and := by
    split
    · next h => exact refuse_bind fun _ _ hspells ↦ absurd hspells.1 (Nat.not_le.2 h)
    · next h =>
      refine ((comparisons.mono fun t h ↦ h.2).map (Query.mk s tables)).congr fun q taken ↦ ?_
      exact and_iff_right (Nat.not_lt.1 h)
  refine (expect_bind (selection.bind (fun s ↦ expect_bind
    (names.bind (hcomparisons s) ?_)) ?_)).congr fun q taken ↦ ?_
  · rintro _ _ _ next ⟨-, cs, rfl, -⟩ hnext t ht
    cases cs with
    | nil =>
      obtain rfl : next = t := Option.some.inj ht
      exact hnext.1
    | cons c cs =>
      obtain rfl : Token.keyword .whereWord = t := Option.some.inj ht
      exact Token.noConfusion
  · rintro _ _ _ next ⟨_, -, rfl⟩ - _ ⟨rfl⟩
    exact Token.noConfusion
  · rw [Query.Spellable]
    constructor
    · rintro ⟨⟨hs, hlength⟩, rfl⟩
      have hne : q.tables ≠ [] := List.ne_nil_of_length_pos (by omega)
      have hle : q.tables.length ≤ 2 := by omega
      refine ⟨_, ⟨_, _, _, ⟨hs, rfl⟩,
        ⟨_, ⟨_, _, _, ⟨hne, rfl⟩, ⟨hle, _, rfl, rfl⟩, rfl⟩, rfl⟩, rfl⟩, ?_⟩
      simp [Query.tokens]
    · rintro ⟨_, ⟨s, _, _, ⟨hs, rfl⟩,
        ⟨_, ⟨tables, _, _, ⟨hne, rfl⟩, ⟨hle, cs, rfl, rfl⟩, rfl⟩, rfl⟩, rfl⟩, rfl⟩
      have hpos := List.length_pos_iff.2 hne
      have hlength : tables.length = 1 ∨ tables.length = 2 := by omega
      exact ⟨⟨hs, hlength⟩, by simp [Query.tokens]⟩

/-- A query is followed by the semicolon of its statement. -/
theorem query_semicolon :
    Takes TokenReader.query (fun q taken ↦ q.Spellable ∧ taken = q.tokens) (· = .semicolon) := by
  refine query.mono ?_
  rintro _ rfl
  exact ⟨Token.noConfusion, Token.noConfusion, Token.noConfusion⟩

/-- What a table is created of: columns in parentheses, or a query behind its keyword. -/
theorem contents (name : String) : Takes contents
    (fun c taken ↦ (Statement.create name c).Spellable ∧ taken = c.tokens) (· = .semicolon) := by
  refine current_bind ?_ fun t ↦ ?_
  · rintro (titles | q) ⟨-, hnil⟩ <;> simp [Contents.tokens] at hnil
  split
  · have hclose (titles : List String) :
        Takes (expect .rightParen >>= fun _ ↦ Pure.pure (Contents.columns titles)) _
          (· = .semicolon) := expect_bind (pure (Contents.columns titles))
    refine ⟨_, advance_bind_cons _ _, (expect_bind (names.bind hclose ?_)).congr fun c taken ↦ ?_⟩
    · rintro _ _ _ next ⟨_, -, rfl⟩ - _ ⟨rfl⟩
      exact Token.noConfusion
    · cases c <;> simp +contextual [Statement.Spellable, Contents.tokens]
  · refine ⟨_, advance_bind_cons _ _,
      (expect_bind (query_semicolon.map Contents.query)).congr fun c taken ↦ ?_⟩
    cases c <;> simp +contextual [Statement.Spellable, Contents.tokens]
  · refine ⟨_, fun _ ↦ rfl, refuse ?_⟩
    rintro (titles | q) _ ⟨⟨-, rfl⟩, ⟨rfl⟩⟩ <;> contradiction

/-- **A statement is read from its spellings and from nothing else** where its semicolon
follows. -/
theorem statement : Takes statement Statement.Spelled (· = .semicolon) := by
  have hnone {t : Token} {fault : Malformation}
      (ht : ∀ k ∈ [.create, .load, .store, .insert, .print, .select, .exit, .quit],
        t ≠ .keyword k) :
      Takes (TokenReader.refuse fault)
        (fun (s : Statement) taken ↦ s.Spelled taken ∧ taken.head? = some t)
        (· = Token.semicolon) := by
    refine refuse fun s taken ⟨h, hhead⟩ ↦ ?_
    obtain ⟨k, hk, hmem⟩ := h.exists_keyword
    exact ht k hmem (Option.some.inj (hhead.symm.trans hk))
  refine current_bind (fun s h ↦ ?_) fun t ↦ ?_
  · obtain ⟨k, hk, -⟩ := h.exists_keyword
    cases hk
  -- what is read after the first token spells the statements that begin with this token
  cases t with
  | keyword k =>
    cases k with
    | create =>
      refine ⟨_, advance_bind_cons _ _, (expect_bind (expect_bind (one_bind fun name ↦
        (contents name).map (Statement.create name)))).congr fun s taken ↦ ?_⟩
      cases s <;> simp +contextual [Statement.spelled_iff, asName_eq_ok_iff, Statement.tokens,
        Statement.Spellable, Query.tokens, or_imp]
    | load | store | print =>
      refine ⟨_, advance_bind_cons _ _,
        (expect_bind (one_bind fun name ↦ pure _)).congr fun s taken ↦ ?_⟩
      cases s <;> simp +contextual [Statement.spelled_iff, asName_eq_ok_iff, Statement.tokens,
        Statement.Spellable, Query.tokens, or_imp]
    | insert =>
      have hvalues := literals.mono fun t (h : t = .semicolon) ↦ h ▸ Token.noConfusion
      refine ⟨_, advance_bind_cons _ _, (expect_bind (expect_bind (one_bind fun name ↦
        expect_bind (hvalues.map (Statement.insert name))))).congr fun s taken ↦ ?_⟩
      cases s <;> simp +contextual [Statement.spelled_iff, asName_eq_ok_iff, Statement.tokens,
        Statement.Spellable, Query.tokens, or_imp]
    | select =>
      refine ⟨_, fun _ ↦ rfl, (query_semicolon.map Statement.select).congr fun s taken ↦ ?_⟩
      cases s <;> simp +contextual [Statement.spelled_iff, Statement.tokens, Statement.Spellable,
        Query.tokens, or_imp]
    | exit =>
      refine ⟨_, advance_bind_cons _ _, (expect_bind (pure Statement.exit)).congr fun s taken ↦ ?_⟩
      constructor
      · rintro ⟨h | _, hhead⟩
        · cases s <;> cases hhead
          exact ⟨[], ⟨rfl, rfl⟩, rfl⟩
        · cases hhead
      · rintro ⟨_, ⟨rfl, rfl⟩, rfl⟩
        exact ⟨.tokens trivial, rfl⟩
    | quit =>
      refine ⟨_, advance_bind_cons _ _, (expect_bind (pure Statement.exit)).congr fun s taken ↦ ?_⟩
      constructor
      · rintro ⟨h | _, hhead⟩
        · cases s <;> cases hhead
        · exact ⟨[], ⟨rfl, rfl⟩, rfl⟩
      · rintro ⟨_, ⟨rfl, rfl⟩, rfl⟩
        exact ⟨.quit, rfl⟩
    | _ => exact ⟨_, fun _ ↦ rfl, hnone (by decide)⟩
  | _ => exact ⟨_, fun _ ↦ rfl, hnone fun _ _ ↦ Token.noConfusion⟩

end Takes

end TokenReader

namespace Statement

/-- **Tokens are read as a statement exactly if they begin with a spelling of it**, its semicolon
and the end. -/
theorem ofTokens_eq_ok_iff {tokens : List Token} {s : Statement} :
    ofTokens tokens = .ok s ↔
      ∃ spelling, s.Spelled spelling ∧ spelling ++ [.semicolon, .eof] <+: tokens := by
  have hwhole :
      ofTokens tokens = .ok s ↔ ∃ left, TokenReader.wholeStatement tokens = .ok s left := by
    rw [ofTokens]
    cases TokenReader.wholeStatement tokens <;> simp
  rw [hwhole]
  constructor
  · rintro ⟨left, h⟩
    have hne : tokens ≠ [] := by
      rintro rfl
      cases h
    obtain ⟨s', mid, hstatement, hend⟩ := TokenReader.bind_eq_ok.1 h
    obtain ⟨hmid, spelling, hspelling, htook⟩ := TokenReader.Takes.statement.sound hne hstatement
    obtain ⟨_, mid', hsemicolon, hafter⟩ := TokenReader.bind_eq_ok.1 hend
    obtain ⟨rest, rfl, rfl⟩ := TokenReader.expect_eq_ok hsemicolon
    have hmid' := TokenReader.past_ne_nil hmid
    replace htook := htook.append (TokenReader.took_past .semicolon rest) hmid'
    obtain ⟨found, more, heq⟩ := List.exists_cons_of_ne_nil hmid'
    rw [heq] at hafter htook
    change (if found = .eof then Pure.pure s' else TokenReader.refuse (.trailing found) :
      TokenReader Statement) (found :: more) = _ at hafter
    obtain rfl : found = .eof := by
      by_contra hfound
      rw [if_neg hfound] at hafter
      cases hafter
    cases hafter
    refine ⟨spelling, hspelling, more, ?_⟩
    -- were the semicolon the last token of all, it would be found again in the place of the end
    rcases htook with rfl | ⟨t, ht, hleft⟩
    · simp
    · rw [List.getLast?_concat] at ht
      cases ht
      cases hleft
  · rintro ⟨spelling, hspelling, rest, rfl⟩
    refine ⟨.eof :: rest, ?_⟩
    have hstatement := TokenReader.Takes.statement.complete hspelling rfl (.eof :: rest)
    rw [List.append_assoc]
    exact (TokenReader.bind_of_eq_ok hstatement).trans rfl

/-- **The language that is read is the language that is spelled.** A list of tokens, whatever stands
in it, is read as a statement exactly if it begins with a spelling of that statement, a semicolon
and the end. So every statement that can be spelled is read from each of its spellings, no list of
tokens spells two statements, and nothing is read where there is no end. -/
theorem ofTokens_spelled :
    (∀ tokens s, ofTokens tokens = .ok s ↔
      ∃ spelling, s.Spelled spelling ∧ spelling ++ [.semicolon, .eof] <+: tokens) ∧
    (∀ s spelling rest, s.Spelled spelling →
      ofTokens (spelling ++ [.semicolon, .eof] ++ rest) = .ok s) ∧
    (∀ (s s' : Statement) spelling, s.Spelled spelling → s'.Spelled spelling → s = s') ∧
    ∀ tokens s, .eof ∉ tokens → ofTokens tokens ≠ .ok s := by
  refine ⟨fun _ _ ↦ ofTokens_eq_ok_iff, fun s spelling rest h ↦ ?_, fun s s' spelling h h' ↦ ?_,
    fun tokens s heof h ↦ ?_⟩
  · exact ofTokens_eq_ok_iff.2 ⟨spelling, h, List.prefix_append _ rest⟩
  · have hread := ofTokens_eq_ok_iff.2 ⟨spelling, h, List.prefix_refl _⟩
    have hread' := ofTokens_eq_ok_iff.2 ⟨spelling, h', List.prefix_refl _⟩
    exact Except.ok.inj (hread.symm.trans hread')
  · obtain ⟨spelling, -, hbegins⟩ := ofTokens_eq_ok_iff.1 h
    exact heof (hbegins.subset (by simp))

/-- The second word that ends a session, with tokens after the end and without an end. -/
theorem ofTokens_spelled_quit :
    Spelled .exit [.keyword .quit] ∧
    ofTokens [.keyword .quit, .semicolon, .eof, .comma] = .ok .exit ∧
    (∀ s : Statement, s.Spelled [.keyword .quit] → s = .exit) ∧
    ∀ s, ofTokens [.keyword .quit, .semicolon] ≠ .ok s :=
  have ⟨_, hread, hunique, hend⟩ := ofTokens_spelled
  ⟨.quit, hread .exit _ [.comma] .quit, fun s h ↦ hunique s .exit _ h .quit,
    fun s ↦ hend _ s (by decide)⟩

end Statement

end Tabular
