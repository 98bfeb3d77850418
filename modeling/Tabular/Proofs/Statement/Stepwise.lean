import Tabular.Proofs.Statement.Grammar

/-!
# Reading statements by position

A list of tokens can also be read at a position that is moved on one token at a time and never
beyond the last. A list of items is then a loop: as long as there is a separator, go on and read an
item. Nothing in the loop counts down. At the last token it stays where it is, and it would go round
for ever if it found both a separator and an item there.

`Cursor.Walk` has a value for this, `none`, and `Cursor.further` is the loop as it stands
(`Cursor.further_eq`), without a reason to end. It ends wherever an item that is read behind a
separator leaves the position beyond the separator (`Cursor.Follows.further`). Names, values and
comparisons do. So reading by position ends from every position, and comes to what `TokenReader`
comes to on the tokens that are left there (`Cursor.Follows.wholeStatement`).

The definitions repeat the readers of statements one by one, and that is the point: they are what
one writes down who moves a position over an array, with no list that gets shorter. Each is then
shown to follow its reader (`Cursor.Follows`), the primitive ones by looking at the token at the
position and the others by `Cursor.Follows.bind`.

## What each loop rests on

* `Cursor.Follows.others`: names and values end because a comma is neither. The last token is never
  moved past, so a comma there is found a second time, now in the place of an item, and refused.
* `Cursor.Follows.furtherComparisons`: comparisons end because each leaves fewer tokens than there
  were from its `and` on. A list of comparisons that breaks off behind an `and` finds that `and`
  again, which is not a name.
* `Cursor.Follows.further` is what both are cases of. It takes the reader that the loop is to follow
  as a family `rs`, one for each list of items that has been read, and asks of it the equation of
  one round.

## The value for going on for ever

`Cursor.further` is defined by whether some number of rounds has an outcome. This is not how a loop
is carried out, and it is `noncomputable`; but it commits to nothing, since a loop that had no
outcome would come to `none` by definition and not by an assumption. That there is an outcome is
shown, and then the equation `Cursor.further_eq` is what proofs use.
-/

namespace Tabular

/-- Tokens, and the position of the first that has not been passed. -/
structure Cursor where
  tokens : List Token
  position : Nat

namespace Cursor

variable {α β : Type}

/-! ### The moves -/

/-- A computation that reads at a cursor and moves it. It comes to `none` if it goes on for ever. -/
abbrev Walk := ExceptT Failure (StateT Cursor Option)

/-- There is a token at the position. -/
def Within (c : Cursor) : Prop :=
  c.position < c.tokens.length

/-- The tokens from the position on. -/
def rest (c : Cursor) : List Token :=
  c.tokens.drop c.position

/-- The cursor one token further on, which stays if it is at the last. -/
def succ (c : Cursor) : Cursor :=
  if c.position + 1 < c.tokens.length then { c with position := c.position + 1 } else c

/-- The token at the position, which there must be. -/
def current : Walk Token := do
  let c ← get
  match c.tokens[c.position]? with
  | some t => return t
  | none => throw .outOfRange

/-- Moves past the token at the position. -/
def advance : Walk Unit :=
  modify succ

/-- Refuses the token at the position. -/
def refuse (fault : Malformation) : Walk α :=
  throw (.malformed fault)

/-- Moves past the given token, or refuses any other. -/
def expect (wanted : Token) : Walk Unit := do
  let found ← current
  if found = wanted then advance else refuse (.expected wanted found)

/-- Moves past the given token if it is there, and says whether it was. -/
def accept (wanted : Token) : Walk Bool := do
  if (← current) = wanted then
    advance
    return true
  else return false

/-- Reads one token. -/
def one (read : Token → Except Malformation α) : Walk α := do
  match read (← current) with
  | .ok a =>
    advance
    return a
  | .error fault => refuse fault

/-- Goes on with a list of items if the separator is there: reads an item, and then what there is to
go on with. -/
def round (separator : Token) (item : Walk α) (go : List α → Walk (List α)) (items : List α) :
    Walk (List α) := do
  if ← accept separator then
    let next ← item
    go (items ++ [next])
  else return items

/-- The outcome of going round for the given number of times, if that is enough. -/
def rounds (separator : Token) (item : Walk α) : Nat → List α → Walk (List α)
  | 0 => fun _ _ ↦ none
  | n + 1 => round separator item (rounds separator item n)

open Classical in
/-- Goes on with a list of items as long as the separator is there, however many rounds it takes. -/
noncomputable def further (separator : Token) (item : Walk α) (items : List α) : Walk (List α) :=
  fun c ↦
    if h : ∃ n, rounds separator item n items c ≠ none then
      rounds separator item h.choose items c
    else none

/-- Reads items with a separator between them, at least one. -/
noncomputable def separated (separator : Token) (item : Walk α) : Walk (List α) := do
  let first ← item
  further separator item [first]

/-- Reads names with commas between them. -/
noncomputable def names : Walk (List String) :=
  separated .comma (one TokenReader.asName)

/-- Reads values with commas between them. -/
noncomputable def literals : Walk (List String) :=
  separated .comma (one TokenReader.asLiteral)

/-- Reads `column relation operand`. -/
def comparison : Walk Comparison := do
  let column ← one TokenReader.asName
  let relation ← one TokenReader.asRelation
  let operand ← one TokenReader.asOperand
  return { column, relation, operand }

/-- Reads the comparisons of a query, of which there may be none. -/
noncomputable def comparisons : Walk (List Comparison) := do
  if ← accept (.keyword .whereWord) then separated (.keyword .and) comparison
  else return []

/-- Reads the columns that a query asks for. -/
noncomputable def selection : Walk Selection := do
  if ← accept .star then return .all
  else return .columns (← names)

/-- Reads a query. -/
noncomputable def query : Walk Query := do
  expect (.keyword .select)
  let selection ← selection
  expect (.keyword .fromWord)
  let tables ← names
  if 2 < tables.length then refuse .tooManyTables
  let comparisons ← comparisons
  return { selection, tables, comparisons }

/-- Reads what a new table is made with. -/
noncomputable def contents : Walk Contents := do
  match ← current with
  | .leftParen =>
    advance
    let titles ← names
    expect .rightParen
    return .columns titles
  | .keyword .as =>
    advance
    return .query (← query)
  | _ => refuse .expectedContents

/-- Reads a statement without its semicolon. The token at the position decides which one it is. -/
noncomputable def statement : Walk Statement := do
  match ← current with
  | .keyword .create =>
    expect (.keyword .create)
    expect (.keyword .table)
    let name ← one TokenReader.asName
    return .create name (← contents)
  | .keyword .load =>
    expect (.keyword .load)
    return .load (← one TokenReader.asName)
  | .keyword .store =>
    expect (.keyword .store)
    return .store (← one TokenReader.asName)
  | .keyword .insert =>
    expect (.keyword .insert)
    expect (.keyword .into)
    let table ← one TokenReader.asName
    expect (.keyword .values)
    return .insert table (← literals)
  | .keyword .print =>
    expect (.keyword .print)
    return .print (← one TokenReader.asName)
  | .keyword .select => return .select (← query)
  | .keyword .exit | .keyword .quit =>
    advance
    return .exit
  | found => refuse (.unrecognized found)

/-- Reads a statement, its semicolon, and finds nothing after it. -/
noncomputable def wholeStatement : Walk Statement := do
  let s ← statement
  expect .semicolon
  let found ← current
  if found = .eof then return s
  else refuse (.trailing found)

/-! ### What they come to -/

/-- The cursor has been moved on to another token, or not at all. -/
structure Reaches (c c' : Cursor) : Prop where
  tokens_eq : c'.tokens = c.tokens
  position_le : c.position ≤ c'.position
  within : c'.Within

/-- A walk ends in what a reader ends in, and stands at a token. -/
inductive Ends (c : Cursor) :
    Option (Except Failure α × Cursor) → EStateM.Result Failure (List Token) α → Prop
  | ok {a : α} {c' : Cursor} (h : c.Reaches c') : Ends c (some (.ok a, c')) (.ok a c'.rest)
  | refused {fault : Malformation} {c' : Cursor} (h : c.Reaches c') :
    Ends c (some (.error (.malformed fault), c')) (.error (.malformed fault) c'.rest)

/-- From every token at which it may start, the walk ends in what the reader ends in. -/
structure Follows (x : Walk α) (r : TokenReader α) : Prop where
  ends {c : Cursor} (h : c.Within) : Ends c (x c) (r c.rest)

variable {c c' c'' : Cursor} {t : Token} {more : List Token}

theorem Within.exists_rest (h : c.Within) :
    ∃ t more, c.rest = t :: more ∧ c.tokens[c.position]? = some t := by
  have hne : c.rest ≠ [] := by
    rw [rest, ne_eq, List.drop_eq_nil_iff]
    exact Nat.not_le.2 h
  obtain ⟨t, more, hrest⟩ := List.exists_cons_of_ne_nil hne
  refine ⟨t, more, hrest, ?_⟩
  rw [← List.head?_drop, ← rest, hrest]
  rfl

theorem Reaches.refl (h : c.Within) : c.Reaches c :=
  ⟨rfl, Nat.le_refl _, h⟩

/-- Positions only go forward, so what is reached can be reached in several steps. -/
theorem Reaches.trans (h : c.Reaches c') (h' : c'.Reaches c'') : c.Reaches c'' :=
  ⟨h'.tokens_eq.trans h.tokens_eq, Nat.le_trans h.position_le h'.position_le, h'.within⟩

/-- **Moving on stays within the tokens.** -/
theorem reaches_succ (h : c.Within) : c.Reaches c.succ := by
  unfold succ
  split
  · next hlt => exact ⟨rfl, Nat.le_succ _, hlt⟩
  · exact .refl h

/-- What is left further on is what a reader leaves that moves past a token. -/
theorem rest_succ (c : Cursor) : c.succ.rest = TokenReader.past c.rest := by
  unfold succ
  split
  · next hlt =>
    have hdrop : c.rest = c.tokens[c.position] :: c.tokens[c.position + 1] ::
        c.tokens.drop (c.position + 1 + 1) := by
      rw [rest, List.drop_eq_getElem_cons (by omega), List.drop_eq_getElem_cons hlt]
    rw [hdrop, rest, List.drop_eq_getElem_cons hlt]
    rfl
  · next hlt =>
    have hlength : c.rest.length ≤ 1 := by
      rw [rest, List.length_drop]
      omega
    match c.rest, hlength with
    | [], _ | [_], _ => rfl

/-- After a walk from where another one has come to. -/
theorem Ends.after {o : Option (Except Failure α × Cursor)}
    {result : EStateM.Result Failure (List Token) α} (h : c.Reaches c') (h' : Ends c' o result) :
    Ends c o result := by
  cases h' with
  | ok h'' => exact .ok (h.trans h'')
  | refused h'' => exact .refused (h.trans h'')

/-- Where the reader succeeds, so does the walk, and it stands at what the reader leaves. -/
theorem Ends.of_ok {o : Option (Except Failure α × Cursor)} {a : α} {left : List Token}
    (h : Ends c o (.ok a left)) : ∃ c', c.Reaches c' ∧ c'.rest = left ∧ o = some (.ok a, c') := by
  cases h with
  | ok h => exact ⟨_, h, rfl, rfl⟩

theorem bind_of_eq_some_ok {x : Walk α} {f : α → Walk β} {a : α} (h : x c = some (.ok a, c')) :
    (x >>= f) c = f a c' := by
  show StateT.bind x _ c = _
  rw [StateT.bind, h]
  rfl

theorem bind_of_eq_some_error {x : Walk α} {f : α → Walk β} {e : Failure}
    (h : x c = some (.error e, c')) : (x >>= f) c = some (.error e, c') := by
  show StateT.bind x _ c = _
  rw [StateT.bind, h]
  rfl

theorem current_eq (h : c.tokens[c.position]? = some t) : current c = some (.ok t, c) := by
  show (match c.tokens[c.position]? with
    | some t => Pure.pure t
    | none => throw .outOfRange : Walk Token) c = _
  rw [h]
  rfl

theorem bind_of_eq_none {x : Walk α} {f : α → Walk β} (h : x c = none) : (x >>= f) c = none := by
  show StateT.bind x _ c = _
  rw [StateT.bind, h]
  rfl

/-! ### The loop -/

section

variable {separator : Token} {item : Walk α} {items : List α}
  {o : Except Failure (List α) × Cursor}

/-- A round has its outcome whatever it would go on with, or has the outcome of going on. -/
theorem round_cases {go : List α → Walk (List α)} (h : round separator item go items c = some o) :
    (∀ go', round separator item go' items c = some o) ∨
      ∃ items' c', go items' c' = some o ∧
        ∀ go', go' items' c' = some o → round separator item go' items c = some o := by
  unfold round at h ⊢
  rcases haccept : accept separator c with - | ⟨e | found, c'⟩
  · rw [bind_of_eq_none haccept] at h
    cases h
  · simp only [bind_of_eq_some_error haccept] at h ⊢
    exact .inl fun _ ↦ h
  simp only [bind_of_eq_some_ok haccept] at h ⊢
  cases found with
  | false => exact .inl fun _ ↦ h
  | true =>
    simp only [if_true] at h ⊢
    rcases hitem : item c' with - | ⟨e | next, c''⟩
    · rw [bind_of_eq_none hitem] at h
      cases h
    · simp only [bind_of_eq_some_error hitem] at h ⊢
      exact .inl fun _ ↦ h
    · simp only [bind_of_eq_some_ok hitem] at h ⊢
      exact .inr ⟨_, c'', h, fun _ ↦ id⟩

/-- More rounds than are enough change nothing. -/
theorem rounds_of_le {m n : Nat} (hle : m ≤ n) (h : rounds separator item m items c = some o) :
    rounds separator item n items c = some o := by
  induction m generalizing n items c with
  | zero => cases h
  | succ m ih =>
    obtain ⟨n, rfl⟩ := Nat.exists_eq_add_of_lt hle
    obtain h | ⟨items', c', hgo, h⟩ := round_cases h
    · exact h _
    · exact h _ (ih (by omega) hgo)

/-- The loop has the outcome that some number of rounds has. -/
theorem further_eq_some_iff :
    further separator item items c = some o ↔ ∃ n, rounds separator item n items c = some o := by
  unfold further
  split
  · next hex =>
    refine ⟨fun h ↦ ⟨_, h⟩, fun ⟨n, h⟩ ↦ ?_⟩
    obtain ⟨o', ho'⟩ := Option.ne_none_iff_exists'.1 hex.choose_spec
    rw [ho', ← rounds_of_le (Nat.le_max_left _ n) ho', rounds_of_le (Nat.le_max_right _ n) h]
  · next hnex => exact ⟨nofun, fun ⟨n, h⟩ ↦ absurd ⟨n, by simp [h]⟩ hnex⟩

/-- **The loop goes round**: it is a round that goes on with the loop. -/
theorem further_eq :
    further separator item items = round separator item (further separator item) items := by
  funext c
  refine Option.ext fun o ↦ ?_
  rw [further_eq_some_iff]
  constructor
  · rintro ⟨n | n, h⟩
    · cases h
    obtain h | ⟨items', c', hgo, h⟩ := round_cases h
    · exact h _
    · exact h _ (further_eq_some_iff.2 ⟨n, hgo⟩)
  · intro h
    obtain h | ⟨items', c', hgo, h⟩ := round_cases h
    · exact ⟨1, h _⟩
    · obtain ⟨n, hn⟩ := further_eq_some_iff.1 hgo
      exact ⟨n + 1, h _ hn⟩

end

end Cursor

namespace TokenReader

variable {α : Type}

/-- A comma is no name. This is what makes lists of names end. -/
theorem asName_comma (name : String) : asName .comma ≠ .ok name := by
  simp [asName]

theorem asLiteral_comma (value : String) : asLiteral .comma ≠ .ok value := by
  simp [asLiteral]

/-- Reads the items of a list after the first. -/
def others (read : Token → Except Malformation α) : TokenReader (List α) := do
  if ← accept .comma then commaList read else return []

/-- **A list is an item and then others**, if a comma is no item. Otherwise a comma at the end of
the tokens would be an item and no separator. -/
theorem commaList_eq {read : Token → Except Malformation α} (hcomma : ∀ a, read .comma ≠ .ok a) :
    commaList read = (do return (← one read) :: (← others read)) := by
  funext tokens
  cases tokens with
  | nil =>
    rw [commaList]
    rfl
  | cons t more =>
    rw [commaList]
    cases hread : read t with
    | error fault =>
      have hone : one read (t :: more) = .error (.malformed fault) (t :: more) := by
        rw [one, hread]
      exact (bind_eq_error.2 (.inl hone)).symm
    | ok a =>
      have hone : one read (t :: more) = .ok a (past (t :: more)) := by
        rw [one, hread]
      rw [bind_of_eq_ok hone]
      cases more with
      | nil =>
        have ht : t ≠ .comma := by
          rintro rfl
          exact hcomma a hread
        have haccept : others read [t] = .ok [] [t] := by
          rw [others, bind_of_eq_ok ((accept_cons .comma t []).trans (if_neg ht))]
          rfl
        show _ = (others read >>= fun as ↦ Pure.pure (a :: as)) [t]
        rw [bind_of_eq_ok haccept]
        rfl
      | cons u more =>
        by_cases hu : u = .comma
        · subst hu
          have haccept : others read (.comma :: more) =
              commaList read (past (.comma :: more)) := by
            rw [others, bind_of_eq_ok ((accept_cons .comma .comma more).trans (if_pos rfl))]
            rfl
          show _ = EStateM.bind (others read) _ (.comma :: more)
          rw [EStateM.bind, haccept]
          dsimp only
          cases commaList read (past (.comma :: more)) <;> rfl
        · have haccept : others read (u :: more) = .ok [] (u :: more) := by
            rw [others, bind_of_eq_ok ((accept_cons .comma u more).trans (if_neg hu))]
            rfl
          rw [show past (t :: u :: more) = u :: more from rfl, bind_of_eq_ok haccept]
          dsimp only
          split
          · next heq => exact absurd (List.cons.inj heq).1 hu
          · rfl

/-- An item behind a comma is read from another token, since the comma is none. -/
theorem length_lt_of_one {read : Token → Except Malformation α} (hcomma : ∀ a, read .comma ≠ .ok a)
    {more left : List Token} {a : α} (h : one read (past (.comma :: more)) = .ok a left) :
    left.length < (Token.comma :: more).length := by
  obtain ⟨t, rest, hpast, ht, rfl⟩ := one_eq_ok h
  cases more with
  | nil =>
    obtain ⟨rfl, -⟩ := List.cons.inj hpast
    exact absurd ht (hcomma a)
  | cons u more =>
    rw [← hpast]
    exact Nat.lt_succ_of_le (length_past_le (u :: more))

/-- Further comparisons are none, or one and then further ones. -/
theorem furtherComparisons_eq : furtherComparisons = (do
    if ← accept (.keyword .and) then return (← comparison) :: (← furtherComparisons)
    else return []) := by
  funext tokens
  cases tokens with
  | nil =>
    rw [furtherComparisons]
    rfl
  | cons t more =>
    rw [furtherComparisons]
    by_cases ht : t = .keyword .and
    · rw [if_pos ht, bind_of_eq_ok ((accept_cons (.keyword .and) t more).trans (if_pos ht)),
        if_pos rfl]
      split
      · next h => exact (bind_eq_error.2 (.inl h)).symm
      · next left h =>
        rw [bind_of_eq_ok h]
        show _ = EStateM.bind furtherComparisons _ left
        rw [EStateM.bind]
        cases furtherComparisons left <;> rfl
    · rw [if_neg ht, bind_of_eq_ok ((accept_cons (.keyword .and) t more).trans (if_neg ht))]
      rfl

end TokenReader

namespace Cursor

variable {α β : Type} {c c' : Cursor}

namespace Follows

/-! ### The moves follow the primitive readers -/

variable {x : Walk α} {r : TokenReader α}

protected theorem pure (a : α) : Follows (Pure.pure a : Walk α) (Pure.pure a) where
  ends h := .ok (.refl h)

/-- It does not matter what a reader does without tokens. -/
theorem congr {r' : TokenReader α} (h : Follows x r)
    (heq : ∀ t more, r' (t :: more) = r (t :: more)) : Follows x r' where
  ends {c} hc := by
    obtain ⟨t, more, hrest, -⟩ := hc.exists_rest
    have hends := h.ends hc
    rwa [hrest, ← heq, ← hrest] at hends

/-- **One walk after another follows one reader after the other.** -/
theorem bind {f : α → Walk β} {g : α → TokenReader β} (hx : Follows x r)
    (hf : ∀ a, Follows (f a) (g a)) : Follows (x >>= f) (r >>= g) where
  ends {c} hc := by
    have hends := hx.ends hc
    generalize hwalk : x c = outcome, hread : r c.rest = result at hends
    cases hends with
    | ok hreaches =>
      rw [bind_of_eq_some_ok hwalk, TokenReader.bind_of_eq_ok hread]
      exact ((hf _).ends hreaches.within).after hreaches
    | refused hreaches =>
      rw [bind_of_eq_some_error hwalk, TokenReader.bind_eq_error.2 (.inl hread)]
      exact .refused hreaches

theorem refuse (fault : Malformation) :
    Follows (refuse fault : Walk α) (TokenReader.refuse fault) where
  ends h := .refused (.refl h)

theorem advance : Follows advance TokenReader.advance where
  ends {c} hc := by
    obtain ⟨t, more, hrest, -⟩ := hc.exists_rest
    have hread : TokenReader.advance c.rest = .ok () c.succ.rest := by
      rw [rest_succ, hrest]
      rfl
    rw [hread]
    exact .ok (reaches_succ hc)

theorem current : Follows current TokenReader.current where
  ends {c} hc := by
    obtain ⟨t, more, hrest, htoken⟩ := hc.exists_rest
    have hread : TokenReader.current c.rest = .ok t c.rest := by
      rw [hrest]
      rfl
    rw [hread, current_eq htoken]
    exact .ok (.refl hc)

theorem expect (wanted : Token) : Follows (expect wanted) (TokenReader.expect wanted) := by
  refine current.bind fun found ↦ ?_
  split
  · exact advance
  · exact refuse _

theorem accept (wanted : Token) : Follows (accept wanted) (TokenReader.accept wanted) := by
  refine current.bind fun found ↦ ?_
  split
  · exact advance.bind fun _ ↦ .pure true
  · exact .pure false

theorem one (read : Token → Except Malformation α) :
    Follows (one read) (TokenReader.one read) := by
  have hone : Follows (Cursor.one read) (TokenReader.current >>= fun t ↦
      match read t with
      | .ok a => TokenReader.advance >>= fun _ ↦ Pure.pure a
      | .error fault => TokenReader.refuse fault) := by
    refine current.bind fun t ↦ ?_
    split
    · exact advance.bind fun _ ↦ .pure _
    · exact refuse _
  refine hone.congr fun t more ↦ ?_
  show _ = (match read t with
    | .ok a => TokenReader.advance >>= fun _ ↦ Pure.pure a
    | .error fault => TokenReader.refuse fault : TokenReader α) (t :: more)
  rw [TokenReader.one]
  cases read t <;> rfl

/-! ### Loops -/

/-- **A loop ends if each item makes up for the separator before it**: fewer tokens are left behind
the item than at the separator. The loop then follows the reader that reads on in this way. -/
theorem further {separator : Token} (hx : Follows x r) (rs : List α → TokenReader (List α))
    (hrs : ∀ items, rs items = TokenReader.accept separator >>= fun found ↦
      if found then r >>= fun next ↦ rs (items ++ [next]) else Pure.pure items)
    (hprogress : ∀ {more left : List Token} {a : α},
      r (TokenReader.past (separator :: more)) = .ok a left →
        left.length < (separator :: more).length) (items : List α) :
    Follows (further separator x items) (rs items) where
  ends {c} hc := by
    -- the tokens that are left count down, from one separator to the next
    induction hlength : c.rest.length using Nat.strongRecOn generalizing c items with
    | _ length ih =>
      obtain ⟨t, more, hrest, -⟩ := hc.exists_rest
      have haccept := (accept separator).ends hc
      rw [hrest, TokenReader.accept_cons] at haccept
      rw [further_eq, round, hrest, hrs]
      by_cases ht : t = separator
      · subst ht
        rw [if_pos rfl] at haccept
        obtain ⟨c', hreaches, hrest', hwalk⟩ := haccept.of_ok
        rw [bind_of_eq_some_ok hwalk, if_pos rfl,
          TokenReader.bind_of_eq_ok ((TokenReader.accept_cons t t more).trans (if_pos rfl)),
          if_pos rfl]
        have hitem := hx.ends hreaches.within
        rw [hrest'] at hitem
        generalize hwalk' : x c' = outcome, hread : r (TokenReader.past (t :: more)) = result
          at hitem
        cases hitem with
        | @ok a c'' hreaches' =>
          rw [bind_of_eq_some_ok hwalk', TokenReader.bind_of_eq_ok hread]
          have hlt : c''.rest.length < length := by
            rw [← hlength, hrest]
            exact hprogress hread
          exact (ih _ hlt _ hreaches'.within rfl).after (hreaches.trans hreaches')
        | refused hreaches' =>
          rw [bind_of_eq_some_error hwalk', TokenReader.bind_eq_error.2 (.inl hread)]
          exact .refused (hreaches.trans hreaches')
      · rw [if_neg ht] at haccept
        obtain ⟨c', hreaches, hrest', hwalk⟩ := haccept.of_ok
        rw [bind_of_eq_some_ok hwalk,
          TokenReader.bind_of_eq_ok ((TokenReader.accept_cons separator t more).trans (if_neg ht)),
          ← hrest']
        exact .ok hreaches

/-- **The items behind commas come to an end if a comma is no item**: the comma at the end of the
tokens is found again in the place of an item, and refused. -/
theorem others {read : Token → Except Malformation α} (hcomma : ∀ a, read .comma ≠ .ok a)
    (items : List α) : Follows (Cursor.further .comma (Cursor.one read) items)
      (TokenReader.others read >>= fun as ↦ Pure.pure (items ++ as)) := by
  refine further (one read)
    (fun items ↦ TokenReader.others read >>= fun as ↦ Pure.pure (items ++ as)) (fun items ↦ ?_)
    (TokenReader.length_lt_of_one hcomma) items
  conv_lhs => rw [TokenReader.others, bind_assoc]
  congr
  funext found
  cases found <;> simp [TokenReader.commaList_eq hcomma]

/-- A list is read as its first item and the items behind commas. -/
theorem commaList {read : Token → Except Malformation α} (hcomma : ∀ a, read .comma ≠ .ok a) :
    Follows (separated .comma (Cursor.one read)) (TokenReader.commaList read) := by
  rw [TokenReader.commaList_eq hcomma]
  exact (one read).bind fun first ↦ others hcomma [first]

theorem names : Follows names (TokenReader.commaList TokenReader.asName) :=
  commaList TokenReader.asName_comma

theorem literals : Follows literals (TokenReader.commaList TokenReader.asLiteral) :=
  commaList TokenReader.asLiteral_comma

theorem comparison : Follows comparison TokenReader.comparison :=
  (one _).bind fun _ ↦ (one _).bind fun _ ↦ (one _).bind fun _ ↦ .pure _

/-- **The comparisons of a query come to an end**: each is more than one token. -/
theorem furtherComparisons (items : List Comparison) :
    Follows (Cursor.further (.keyword .and) Cursor.comparison items)
      (TokenReader.furtherComparisons >>= fun cs ↦ Pure.pure (items ++ cs)) := by
  refine further comparison
    (fun items ↦ TokenReader.furtherComparisons >>= fun cs ↦ Pure.pure (items ++ cs))
    (fun items ↦ ?_) (fun h ↦ ?_) items
  · conv_lhs => rw [TokenReader.furtherComparisons_eq, bind_assoc]
    congr
    funext found
    cases found <;> simp
  · exact Nat.lt_of_lt_of_le (TokenReader.length_lt_of_comparison h)
      (TokenReader.length_past_le _)

theorem comparisons : Follows comparisons TokenReader.comparisons := by
  refine (accept _).bind fun found ↦ ?_
  cases found with
  | false => exact .pure []
  | true => exact comparison.bind fun first ↦ furtherComparisons [first]

theorem selection : Follows selection TokenReader.selection := by
  refine (accept _).bind fun found ↦ ?_
  cases found with
  | false => exact names.bind fun _ ↦ .pure _
  | true => exact .pure Selection.all

theorem query : Follows query TokenReader.query := by
  refine (expect _).bind fun _ ↦ selection.bind fun _ ↦ (expect _).bind fun _ ↦
    names.bind fun tables ↦ ?_
  split
  · exact (refuse _).bind fun _ ↦ comparisons.bind fun _ ↦ .pure _
  · exact comparisons.bind fun _ ↦ .pure _

/-- A walk that is chosen by the token at the position. -/
theorem current_bind {f : Token → Walk β} {g : Token → TokenReader β}
    (h : ∀ t, ∃ r, Follows (f t) r ∧ ∀ more, g t (t :: more) = r (t :: more)) :
    Follows (Cursor.current >>= f) (TokenReader.current >>= g) := by
  choose r hr heq using h
  exact (current.bind hr).congr heq

theorem contents : Follows contents TokenReader.contents := by
  refine current_bind fun t ↦ ?_
  cases t with
  | leftParen =>
    exact ⟨_, advance.bind fun _ ↦ names.bind fun _ ↦ (expect _).bind fun _ ↦ .pure _, fun _ ↦ rfl⟩
  | keyword k =>
    cases k with
    | as => exact ⟨_, advance.bind fun _ ↦ query.bind fun _ ↦ .pure _, fun _ ↦ rfl⟩
    | _ => exact ⟨_, refuse _, fun _ ↦ rfl⟩
  | _ => exact ⟨_, refuse _, fun _ ↦ rfl⟩

theorem statement : Follows statement TokenReader.statement := by
  refine current_bind fun t ↦ ?_
  cases t with
  | keyword k =>
    cases k with
    | create =>
      exact ⟨_, (expect _).bind fun _ ↦ (expect _).bind fun _ ↦ (one _).bind fun _ ↦
        contents.bind fun _ ↦ .pure _, fun _ ↦ TokenReader.advance_bind_cons ..⟩
    | insert =>
      exact ⟨_, (expect _).bind fun _ ↦ (expect _).bind fun _ ↦ (one _).bind fun _ ↦
        (expect _).bind fun _ ↦ literals.bind fun _ ↦ .pure _,
        fun _ ↦ TokenReader.advance_bind_cons ..⟩
    | load | store | print =>
      exact ⟨_, (expect _).bind fun _ ↦ (one _).bind fun _ ↦ .pure _,
        fun _ ↦ TokenReader.advance_bind_cons ..⟩
    | select => exact ⟨_, query.bind fun _ ↦ .pure _, fun _ ↦ rfl⟩
    | exit | quit => exact ⟨_, advance.bind fun _ ↦ .pure _, fun _ ↦ rfl⟩
    | _ => exact ⟨_, refuse _, fun _ ↦ rfl⟩
  | _ => exact ⟨_, refuse _, fun _ ↦ rfl⟩

/-- **Reading a statement by position ends**, from every position and whatever the tokens are, in
what the reader of tokens ends in. -/
theorem wholeStatement : Follows wholeStatement TokenReader.wholeStatement := by
  refine statement.bind fun s ↦ (expect _).bind fun _ ↦ current.bind fun found ↦ ?_
  split
  · exact .pure s
  · exact refuse _

end Follows

end Cursor
end Tabular
