/-!
# Bytes, lines and fields

Files and scripts are bytes. They are read as lines first and as text second: a line ends at a line
feed, one carriage return directly before the line feed belongs to the line's end, and each line is
UTF-8 or not on its own, so that a bad line spoils neither the lines before it nor their number.

The three equations `lines_nil`, `lines_append_lf` and `lines_eq_singleton` determine `lines`.

Within a line fields are parted by commas: rows are shown, compared and stored as their values
joined by commas. Nothing is escaped, so the line determines the values exactly when no value holds
a comma; `splitFields_joinFields` says so for reading back and `joinFields_splitFields` for writing
back.
-/

namespace Tabular.Text

/-- The bytes of a file or of a script. -/
abbrev Bytes := List UInt8

/-- The UTF-8 encoding of a text. -/
def utf8 (s : String) : Bytes :=
  s.toUTF8.data.toList

/-- The text with the given UTF-8 encoding, if there is one. -/
def ofUtf8? (bytes : Bytes) : Option String :=
  String.fromUTF8? ⟨bytes.toArray⟩

/-- What is encoded is decoded again. -/
@[simp] theorem ofUtf8?_utf8 (s : String) : ofUtf8? (utf8 s) = some s := by
  have h : (⟨(utf8 s).toArray⟩ : ByteArray) = s.toUTF8 := by simp [utf8]
  rw [ofUtf8?, h, String.fromUTF8?, String.toUTF8_eq_toByteArray, dif_pos s.isValidUTF8]
  rfl

/-- What is decoded was its encoding. -/
theorem eq_utf8_of_ofUtf8? {bytes : Bytes} {s : String} (h : ofUtf8? bytes = some s) :
    bytes = utf8 s := by
  unfold ofUtf8? String.fromUTF8? at h
  split at h
  · rw [Option.some.injEq] at h
    subst h
    rfl
  · contradiction

/-- **Decoding is the exact inverse of encoding**: a text has one encoding, and nothing else
decodes. -/
theorem ofUtf8?_eq_some_iff {bytes : Bytes} {s : String} :
    ofUtf8? bytes = some s ↔ bytes = utf8 s :=
  ⟨eq_utf8_of_ofUtf8?, fun h ↦ h ▸ ofUtf8?_utf8 s⟩

/-! ### Lines -/

/-- Line feed. -/
def lf : UInt8 := 10

/-- Carriage return. -/
def cr : UInt8 := 13

/-- A line without the carriage return that ends it, if one does. -/
def chomp (line : Bytes) : Bytes :=
  if line.getLast? = some cr then line.dropLast else line

/-- What the pieces between line feeds are as lines. What follows the last line feed is a line only
if it is not empty, and keeps its carriage return: no line feed takes it away. -/
def endLines : List Bytes → List Bytes
  | [] => []
  | [last] => if last = [] then [] else [last]
  | piece :: next :: rest => chomp piece :: endLines (next :: rest)

/-- The lines of a file, without their ends. -/
def lines (bytes : Bytes) : List Bytes :=
  endLines (bytes.splitOn lf)

/-- The lines of a file as texts, `none` for a line that is not UTF-8. -/
def textLines (bytes : Bytes) : List (Option String) :=
  (lines bytes).map ofUtf8?

/-- An empty file has no line, not one that is empty. -/
@[simp] theorem lines_nil : lines [] = [] := rfl

/-- A line feed ends the line before it, and takes one carriage return with it. -/
theorem lines_append_lf {line : Bytes} (h : lf ∉ line) (rest : Bytes) :
    lines (line ++ lf :: rest) = chomp line :: lines rest := by
  rw [lines, List.splitOn_append_cons_self_of_not_mem h rest, lines]
  cases hpieces : rest.splitOn lf with
  | nil => exact absurd hpieces (List.splitOn_ne_nil lf rest)
  | cons piece pieces => rfl

theorem lines_eq_singleton {line : Bytes} (h : lf ∉ line) (hne : line ≠ []) :
    lines line = [line] := by
  rw [lines, List.splitOn_eq_singleton h, endLines, if_neg hne]

/-! ### Fields -/

/-- Fields in one line, with a comma between each two. -/
def joinFields (fields : List String) : String :=
  ",".intercalate fields

/-- The fields of a line: what stands between its commas. The empty line is one empty field. -/
def splitFields (line : String) : List String :=
  (line.toList.splitOn ',').map String.ofList

theorem toList_joinFields (fields : List String) :
    (joinFields fields).toList = [','].intercalate (fields.map String.toList) := by
  rw [joinFields, String.toList_intercalate]
  rfl

theorem splitFields_ne_nil (line : String) : splitFields line ≠ [] := by
  simp [splitFields]

/-- A line is what its fields join to. -/
@[simp] theorem joinFields_splitFields (line : String) : joinFields (splitFields line) = line := by
  apply String.ext
  rw [toList_joinFields, splitFields, List.map_map]
  simp [Function.comp_def, List.intercalate_splitOn]

/-- **Fields without commas are read back**, whatever else they hold. -/
theorem splitFields_joinFields {fields : List String} (hne : fields ≠ [])
    (h : ∀ f ∈ fields, ',' ∉ f.toList) : splitFields (joinFields fields) = fields := by
  rw [splitFields, toList_joinFields, List.splitOn_intercalate _ (by simpa using h) (by simpa)]
  simp [Function.comp_def]

end Tabular.Text
