import Tabular.Error
import Tabular.Statement

/-!
# Reading statements from tokens

A reader looks at the first of the tokens left and moves past it once it is understood. The last
token is never moved past: it stands for the end of the statement, and a reader that has come to it
finds it again. What is left after a refusal begins with the token that was refused.

Lists are `item, item, …` without a final comma. Each item takes a token of its own, so a list ends
even where the last token is a comma: that comma is found again in the place of an item, and
refused.

Readers are sequences of a few steps: to look (`current`), to go on (`advance`), to insist on a
token (`expect`), to take one if it is there (`accept`), to read one (`one`) or a list of them
(`commaList`). Nothing is taken back, so a reader that refuses has read all before the fault, and
the first fault from the left is the one that is reported. The number of tables is checked when
their list has been read, before what follows is looked at.

The two readers that go round, `commaList` and `furtherComparisons`, end because each round leaves
fewer tokens (`length_past_le`, `length_lt_of_comparison`). No reader finds anything in an empty
list of tokens, which is out of range; lists of tokens that were read from text end in `eof` and are
never empty.
-/

namespace Tabular

/-- Reads something from the tokens left, of which some may be left again. -/
abbrev TokenReader := EStateM Failure (List Token)

namespace TokenReader

variable {α : Type}

/-- The tokens left after the first, which stays if it is the last. -/
def past : List Token → List Token
  | _ :: next :: rest => next :: rest
  | tokens => tokens

theorem length_past_le (tokens : List Token) : (past tokens).length ≤ tokens.length := by
  unfold past
  split <;> simp

/-- The first token left. -/
def current : TokenReader Token
  | [] => .error .outOfRange []
  | t :: rest => .ok t (t :: rest)

/-- Moves past the first token left. -/
def advance : TokenReader Unit
  | [] => .error .outOfRange []
  | t :: rest => .ok () (past (t :: rest))

/-- Refuses the tokens left. -/
def refuse (fault : Malformation) : TokenReader α :=
  throw (.malformed fault)

/-- Moves past the given token, or refuses any other. -/
def expect (wanted : Token) : TokenReader Unit := do
  let found ← current
  if found = wanted then advance else refuse (.expected wanted found)

/-- Moves past the given token if it is there, and says whether it was. -/
def accept (wanted : Token) : TokenReader Bool := do
  if (← current) = wanted then
    advance
    return true
  else return false

/-- The name that a token is. -/
def asName : Token → Except Malformation String
  | .ident name => .ok name
  | found => .error (.expectedName found)

/-- The value that a token is. -/
def asLiteral : Token → Except Malformation String
  | .literal value => .ok value
  | found => .error (.expectedLiteral found)

/-- Reads one token. -/
def one (read : Token → Except Malformation α) : TokenReader α
  | [] => .error .outOfRange []
  | t :: rest =>
    match read t with
    | .ok a => .ok a (past (t :: rest))
    | .error fault => .error (.malformed fault) (t :: rest)

/-- Reads tokens with commas between them, at least one. -/
def commaList (read : Token → Except Malformation α) : TokenReader (List α)
  | [] => .error .outOfRange []
  | t :: rest =>
    match read t with
    | .error fault => .error (.malformed fault) (t :: rest)
    | .ok a =>
      match rest with
      | .comma :: more =>
        match commaList read (past (.comma :: more)) with
        | .ok as left => .ok (a :: as) left
        | .error e left => .error e left
      | _ => .ok [a] (past (t :: rest))
termination_by tokens => tokens.length
decreasing_by
  have := length_past_le (.comma :: more)
  simp only [List.length_cons] at this ⊢
  omega

/-- The relation that a token is. -/
def asRelation : Token → Except Malformation Relation
  | .relation symbol =>
    match Relation.ofSymbol? symbol with
    | some r => .ok r
    | none => .error (.unknownRelation symbol)
  | found => .error (.expectedRelation found)

/-- The operand that a token is. -/
def asOperand : Token → Except Malformation Operand
  | .ident title => .ok (.column title)
  | .literal value => .ok (.literal value)
  | found => .error (.expectedLiteral found)

/-- Reads `column relation operand`. -/
def comparison : TokenReader Comparison := do
  let column ← one asName
  let relation ← one asRelation
  let operand ← one asOperand
  return { column, relation, operand }

/-- Two readers after one another succeed if the first does and the second does where the first left
off. -/
theorem bind_eq_ok {β : Type} {x : TokenReader α} {f : α → TokenReader β}
    {tokens left : List Token} {b : β} :
    (x >>= f) tokens = .ok b left ↔ ∃ a mid, x tokens = .ok a mid ∧ f a mid = .ok b left := by
  change EStateM.bind x f tokens = _ ↔ _
  unfold EStateM.bind
  cases x tokens with
  | error => simp
  | ok a mid =>
    refine ⟨fun h ↦ ⟨a, mid, rfl, h⟩, ?_⟩
    rintro ⟨a', mid', heq, h⟩
    cases heq
    exact h

/-- Reading one token moves past it, so far as one can. -/
theorem one_eq_ok {read : Token → Except Malformation α} {tokens left : List Token} {a : α}
    (h : one read tokens = .ok a left) :
    ∃ t rest, tokens = t :: rest ∧ read t = .ok a ∧ left = past (t :: rest) := by
  unfold one at h
  split at h
  · cases h
  · next t rest =>
    split at h <;> cases h
    exact ⟨t, rest, rfl, by assumption, rfl⟩

/-- **A comparison makes progress**: were its column the last token, it would be found again in the
place of the relation. -/
theorem length_lt_of_comparison {tokens left : List Token} {c : Comparison}
    (h : comparison tokens = .ok c left) : left.length < tokens.length := by
  obtain ⟨column, mid, hcolumn, h⟩ := bind_eq_ok.1 h
  obtain ⟨relation, mid', hrelation, h⟩ := bind_eq_ok.1 h
  obtain ⟨operand, mid'', hoperand, h⟩ := bind_eq_ok.1 h
  obtain ⟨t, rest, rfl, ht, rfl⟩ := one_eq_ok hcolumn
  obtain ⟨u, rest', hmid, hu, rfl⟩ := one_eq_ok hrelation
  obtain ⟨v, rest'', hmid', -, rfl⟩ := one_eq_ok hoperand
  cases h
  have hle := length_past_le (u :: rest')
  have hle' := length_past_le (v :: rest'')
  rw [hmid'] at hle
  cases rest with
  | nil =>
    obtain ⟨rfl, -⟩ := List.cons.inj hmid
    cases t <;> simp [asName, asRelation] at ht hu
  | cons w more =>
    have hlength := congrArg List.length hmid
    simp only [past, List.length_cons] at *
    omega

/-- Reads the comparisons that `and` adds to those before. -/
def furtherComparisons : TokenReader (List Comparison)
  | [] => .error .outOfRange []
  | t :: rest =>
    if t = .keyword .and then
      match _ : comparison (past (t :: rest)) with
      | .error e left => .error e left
      | .ok c left =>
        match furtherComparisons left with
        | .ok cs stop => .ok (c :: cs) stop
        | .error e stop => .error e stop
    else .ok [] (t :: rest)
termination_by tokens => tokens.length
decreasing_by
  have hlt := length_lt_of_comparison ‹comparison _ = _›
  have hle := length_past_le (t :: rest)
  omega

/-- Reads the comparisons of a query, of which there may be none. -/
def comparisons : TokenReader (List Comparison) := do
  if ← accept (.keyword .whereWord) then
    let first ← comparison
    let others ← furtherComparisons
    return first :: others
  else return []

/-- Reads the columns that a query asks for. -/
def selection : TokenReader Selection := do
  if ← accept .star then return .all
  else return .columns (← commaList asName)

/-- Reads a query. -/
def query : TokenReader Query := do
  expect (.keyword .select)
  let selection ← selection
  expect (.keyword .fromWord)
  let tables ← commaList asName
  if 2 < tables.length then refuse .tooManyTables
  let comparisons ← comparisons
  return { selection, tables, comparisons }

/-- Reads what a new table is made with. -/
def contents : TokenReader Contents := do
  match ← current with
  | .leftParen =>
    advance
    let titles ← commaList asName
    expect .rightParen
    return .columns titles
  | .keyword .as =>
    advance
    return .query (← query)
  | _ => refuse .expectedContents

/-- Reads a statement without its semicolon. The first token decides which one it is. -/
def statement : TokenReader Statement := do
  match ← current with
  | .keyword .create =>
    advance
    expect (.keyword .table)
    let name ← one asName
    return .create name (← contents)
  | .keyword .load =>
    advance
    return .load (← one asName)
  | .keyword .store =>
    advance
    return .store (← one asName)
  | .keyword .insert =>
    advance
    expect (.keyword .into)
    let table ← one asName
    expect (.keyword .values)
    return .insert table (← commaList asLiteral)
  | .keyword .print =>
    advance
    return .print (← one asName)
  | .keyword .select => return .select (← query)
  | .keyword .exit | .keyword .quit =>
    advance
    return .exit
  | found => refuse (.unrecognized found)

/-- Reads a statement, its semicolon, and finds nothing after it. -/
def wholeStatement : TokenReader Statement := do
  let s ← statement
  expect .semicolon
  let found ← current
  if found = .eof then return s
  else refuse (.trailing found)

end TokenReader

/-- The statement that a list of tokens begins with. -/
def Statement.ofTokens (tokens : List Token) : Except Failure Statement :=
  match TokenReader.wholeStatement tokens with
  | .ok s _ => .ok s
  | .error e _ => .error e

end Tabular
