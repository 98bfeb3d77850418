/-!
# The six relations

Values are text and are compared as text, character by character in the order of code points: `10`
comes before `9`, and a proper beginning of a text comes before the text.

The symbol of a relation is all that a token keeps of it, so looking a relation up by its symbol has
to find the one that was meant (`ofSymbol?_eq_some_iff`). `le` and `ge` are told by what they
exclude; that they come to less or equal, and to greater or equal, rests on the order of texts being
total and is proved apart.
-/

namespace Tabular

/-- A comparison between two texts. -/
inductive Relation
  | eq
  | ne
  | lt
  | le
  | gt
  | ge
  deriving DecidableEq, Repr

namespace Relation

/-- How the relation is written. -/
def symbol : Relation → String
  | eq => "="
  | ne => "!="
  | lt => "<"
  | le => "<="
  | gt => ">"
  | ge => ">="

/-- All six. -/
def all : List Relation := [eq, ne, lt, le, gt, ge]

/-- The relation with the given symbol. -/
def ofSymbol? (s : String) : Option Relation :=
  all.find? (·.symbol == s)

/-- Whether the relation holds between two texts. -/
def holds : Relation → String → String → Bool
  | eq, l, r => l == r
  | ne, l, r => l != r
  | lt, l, r => l < r
  | le, l, r => !(r < l : Bool)
  | gt, l, r => r < l
  | ge, l, r => !(l < r : Bool)

/-- **Each symbol is the symbol of one relation**, and the relation is found by it. -/
theorem ofSymbol?_eq_some_iff {s : String} {r : Relation} :
    ofSymbol? s = some r ↔ r.symbol = s := by
  constructor
  · intro h
    simpa using List.find?_some h
  · rintro rfl
    cases r <;> decide

end Relation

end Tabular
