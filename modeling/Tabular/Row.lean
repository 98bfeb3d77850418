import Tabular.Text.Bytes

/-!
# Rows

A row is shown and stored as its values joined by commas, and two rows with one joined form are the
same row of a table even where the commas fall differently. `Row.Same` is that equality; plain
equality of rows is value by value.

The joined form need not be made to be compared or hashed: its bytes can be told one after the other
(`Row.bytes`).

Nothing is said here about how many values a row has or what they hold. A row of no values is joined
to the empty text, as is the row of one empty value; rows of tables have values, since tables have
columns.
-/

namespace Tabular

open Text (Bytes)

/-- A row of text values. -/
structure Row where
  values : List String
  deriving DecidableEq, Repr

namespace Row

/-- The number of values. -/
def width (r : Row) : Nat :=
  r.values.length

/-- The value at a place, if there is one. -/
def get? (r : Row) (k : Nat) : Option String :=
  r.values[k]?

/-- The joined form: the values with commas between them. -/
def joined (r : Row) : String :=
  Text.joinFields r.values

/-- Rows with one joined form are the same row of a table. -/
def Same (r s : Row) : Prop :=
  r.joined = s.joined

instance (r s : Row) : Decidable (Same r s) :=
  inferInstanceAs (Decidable (r.joined = s.joined))

/-- Being the same row is an equivalence, since it is equality of joined forms. -/
theorem Same.refl (r : Row) : Same r r := rfl

theorem Same.symm {r s : Row} (h : Same r s) : Same s r := Eq.symm h

theorem Same.trans {r s t : Row} (h : Same r s) (h' : Same s t) : Same r t := Eq.trans h h'

/-- The byte of a comma. -/
def comma : UInt8 := 44

/-- A byte that no text holds. -/
def terminator : UInt8 := 255

/-- The bytes of the joined form, one after the other: a comma's before each value but the first. -/
def bytes (r : Row) : Bytes :=
  r.values.zipIdx.flatMap fun entry ↦ (if 0 < entry.2 then [comma] else []) ++ Text.utf8 entry.1

/-- The state of a hasher after a row was fed to it: its bytes one after the other, and then a byte
that ends them. -/
def hash {σ : Type} (r : Row) (write : σ → UInt8 → σ) (state : σ) : σ :=
  write (r.bytes.foldl write state) terminator

/-- The joined form with blanks for commas, as rows are printed. -/
def spaced (r : Row) : String :=
  String.ofList (r.joined.toList.map fun c ↦ if c = ',' then ' ' else c)

/-- The row that a stored line holds. -/
def ofLine (line : String) : Row :=
  ⟨Text.splitFields line⟩

/-- A row that was read from a line is joined to that line again. -/
@[simp] theorem joined_ofLine (line : String) : (ofLine line).joined = line :=
  Text.joinFields_splitFields line

end Row

end Tabular
