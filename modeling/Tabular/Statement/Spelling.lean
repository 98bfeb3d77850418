import Tabular.Statement
import Tabular.Token

/-!
# Spelling statements

The tokens that a statement is written with, up to its semicolon. Every statement has one spelling
but `exit`, which has two; and not every statement can be spelled, since lists are written without
brackets and so cannot be empty, and a query is written with one table or two.

Spelling says nothing about reading. It is a function from statements to tokens, given by the parts
of a statement, and the theorems about the grammar compare it with the readers: what is spelled is
read as the statement it spells, and what is read was spelled so.
-/

namespace Tabular

/-- Tokens with a comma between each two. -/
def commaSeparated (items : List Token) : List Token :=
  items.intersperse .comma

/-- The tokens of an operand. -/
def Operand.tokens : Operand → List Token
  | column title => [.ident title]
  | literal value => [.literal value]

/-- The tokens of a comparison. -/
def Comparison.tokens (c : Comparison) : List Token :=
  .ident c.column :: .relation c.relation.symbol :: c.operand.tokens

/-- The tokens of comparisons that follow another one. -/
def furtherTokens (cs : List Comparison) : List Token :=
  cs.flatMap fun c ↦ .keyword .and :: c.tokens

/-- The tokens of all the comparisons of a query. -/
def whereTokens : List Comparison → List Token
  | [] => []
  | c :: cs => .keyword .whereWord :: c.tokens ++ furtherTokens cs

/-- The tokens of a selection. -/
def Selection.tokens : Selection → List Token
  | all => [.star]
  | columns titles => commaSeparated (titles.map .ident)

/-- The tokens of a query. -/
def Query.tokens (q : Query) : List Token :=
  .keyword .select :: q.selection.tokens ++
    .keyword .fromWord :: commaSeparated (q.tables.map .ident) ++ whereTokens q.comparisons

/-- The tokens of a new table's contents. -/
def Contents.tokens : Contents → List Token
  | columns titles => .leftParen :: commaSeparated (titles.map .ident) ++ [.rightParen]
  | query q => .keyword .as :: q.tokens

/-- The tokens of a statement. -/
def Statement.tokens : Statement → List Token
  | create name contents => .keyword .create :: .keyword .table :: .ident name :: contents.tokens
  | load name => [.keyword .load, .ident name]
  | store name => [.keyword .store, .ident name]
  | insert table values =>
    .keyword .insert :: .keyword .into :: .ident table :: .keyword .values ::
      commaSeparated (values.map .literal)
  | print name => [.keyword .print, .ident name]
  | select q => q.tokens
  | exit => [.keyword .exit]

/-- Whether a query can be spelled. -/
def Query.Spellable (q : Query) : Prop :=
  q.selection ≠ .columns [] ∧ (q.tables.length = 1 ∨ q.tables.length = 2)

/-- Whether a statement can be spelled. -/
def Statement.Spellable : Statement → Prop
  | create _ (.columns titles) => titles ≠ []
  | create _ (.query q) => q.Spellable
  | insert _ values => values ≠ []
  | select q => q.Spellable
  | load _ | store _ | print _ | exit => True

/-- The spellings of a statement. -/
inductive Statement.Spelled : Statement → List Token → Prop
  | tokens {s : Statement} (h : s.Spellable) : Spelled s s.tokens
  | quit : Spelled .exit [.keyword .quit]

end Tabular
