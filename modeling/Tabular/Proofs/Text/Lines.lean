import Tabular.Text.Bytes

/-!
# The lines of an encoded text

Files and scripts are cut into lines as bytes and decoded line by line. For bytes that are the
encoding of a text this is the same as cutting the text: a line feed and a carriage return are one
byte each, and no other character has such a byte in its encoding (`mem_utf8_iff`). So the equations
that determine `lines` have counterparts that determine `textLines` on texts (`textLines_append_lf`,
`textLines_utf8`), with `chompText` in the place of `chomp`.

Most proofs about files want texts and not bytes, and most proofs about texts want one line at a
time. `piece_induction` is the induction for both: a list is a piece without the separator, or such
a piece, a separator, and a list. It is used for the lines of a file and again for the pieces that a
script is cut into.

What is read is chomped. A line that was written with a carriage return at its end is therefore read
without it, and that this is all that is lost is what `chomp_utf8` and `textLines_append_lf` say
together.
-/

namespace Tabular.Text

/-! ### Encoding character by character -/

/-- A text is encoded character by character. -/
theorem utf8_eq_flatMap (s : String) : utf8 s = s.toList.flatMap String.utf8EncodeChar := by
  rw [utf8, String.toUTF8_eq_toByteArray, ← String.utf8Encode_toList, List.utf8Encode]
  exact List.toList_data_toByteArray

/-- Only the empty text has an empty encoding. -/
theorem utf8_eq_nil_iff {s : String} : utf8 s = [] ↔ s = "" := by
  rw [utf8_eq_flatMap, List.flatMap_eq_nil_iff]
  constructor
  · intro h
    refine String.toList_eq_nil_iff.1 (List.eq_nil_iff_forall_not_mem.2 fun c hc ↦ ?_)
    exact String.utf8EncodeChar_ne_nil (h c hc)
  · rintro rfl
    simp

/-- **A byte below 128 is a character of its own**: a character with that byte anywhere in its
encoding is the one that the byte encodes. -/
theorem eq_of_mem_utf8EncodeChar {c d : Char} (hd : d.toNat < 128)
    (h : UInt8.ofNat d.toNat ∈ String.utf8EncodeChar c) : c = d := by
  -- in the longer encodings all bytes are 128 or more
  have hvalue : ∀ {v : Nat}, v < 256 → UInt8.ofNat d.toNat = UInt8.ofNat v → d.toNat = v := by
    intro v hv heq
    have hnat := congrArg UInt8.toNat heq
    simp only [UInt8.toNat_ofNat'] at hnat
    omega
  apply Char.ext
  rw [← UInt32.toNat_inj]
  show c.toNat = d.toNat
  unfold String.utf8EncodeChar at h
  simp only [show c.val.toNat = c.toNat from rfl] at h
  split at h
  · have := hvalue (by omega) (List.mem_singleton.1 h)
    exact this.symm
  · split at h
    · simp only [List.mem_cons, List.not_mem_nil, or_false] at h
      rcases h with h | h <;> have := hvalue (by omega) h <;> omega
    · split at h <;> simp only [List.mem_cons, List.not_mem_nil, or_false] at h
      · rcases h with h | h | h <;> have := hvalue (by omega) h <;> omega
      · rcases h with h | h | h | h <;> have := hvalue (by omega) h <;> omega

/-- A character below 128 stands in a text exactly when its byte stands in the encoding. -/
theorem mem_utf8_iff {d : Char} (hd : d.toNat < 128) {s : String} :
    UInt8.ofNat d.toNat ∈ utf8 s ↔ d ∈ s.toList := by
  rw [utf8_eq_flatMap, List.mem_flatMap]
  constructor
  · rintro ⟨c, hc, hmem⟩
    rwa [← eq_of_mem_utf8EncodeChar hd hmem]
  · intro h
    refine ⟨d, h, ?_⟩
    have hle : d.val.toNat ≤ 127 := Nat.le_of_lt_succ hd
    rw [String.utf8EncodeChar, if_pos hle]
    exact List.mem_singleton.2 rfl

theorem lf_mem_utf8_iff {s : String} : lf ∈ utf8 s ↔ '\n' ∈ s.toList :=
  mem_utf8_iff (d := '\n') (by decide)

/-! ### Lines -/

/-- One carriage return is taken from the end of a line, not all. -/
@[simp] theorem chomp_append_cr (line : Bytes) : chomp (line ++ [cr]) = line := by
  rw [chomp, if_pos List.getLast?_concat, List.dropLast_concat]

theorem chomp_eq_self {line : Bytes} (h : line.getLast? ≠ some cr) : chomp line = line :=
  if_neg h

/-- A line ends in a carriage return that is taken away, or stays as it is. -/
theorem eq_chomp_append_cr_or (line : Bytes) :
    line = chomp line ++ [cr] ∨ line.getLast? ≠ some cr ∧ chomp line = line := by
  by_cases hcr : line.getLast? = some cr
  · obtain ⟨front, rfl⟩ := List.getLast?_eq_some_iff.1 hcr
    rw [chomp_append_cr]
    exact .inl rfl
  · exact .inr ⟨hcr, chomp_eq_self hcr⟩

/-- A text without the carriage return that ends it, if one does. -/
def chompText (line : String) : String :=
  if line.toList.getLast? = some '\r' then String.ofList line.toList.dropLast else line

/-- A text ends in a carriage return exactly when its encoding does. -/
theorem getLast?_utf8_eq_cr_iff {s : String} :
    (utf8 s).getLast? = some cr ↔ s.toList.getLast? = some '\r' := by
  rw [utf8_eq_flatMap]
  rcases List.eq_nil_or_concat s.toList with h | ⟨front, c, h⟩
  · simp [h]
  · have hlast : (s.toList.flatMap String.utf8EncodeChar).getLast? =
        (String.utf8EncodeChar c).getLast? := by
      rw [h, List.concat_eq_append, List.flatMap_append, List.flatMap_singleton,
        List.getLast?_append,
        Option.or_of_isSome (List.getLast?_isSome.2 String.utf8EncodeChar_ne_nil)]
    rw [hlast, h, List.concat_eq_append, List.getLast?_concat]
    constructor
    · intro hcr
      have hmem : UInt8.ofNat '\r'.toNat ∈ String.utf8EncodeChar c := List.mem_of_getLast? hcr
      rw [eq_of_mem_utf8EncodeChar (by decide) hmem]
    · rintro ⟨rfl⟩
      rfl

/-- Taking the carriage return away commutes with encoding. -/
theorem chomp_utf8 (line : String) : chomp (utf8 line) = utf8 (chompText line) := by
  unfold chomp chompText
  simp only [getLast?_utf8_eq_cr_iff]
  split
  · next h =>
    obtain ⟨front, hfront⟩ := List.getLast?_eq_some_iff.1 h
    rw [utf8_eq_flatMap, utf8_eq_flatMap, String.toList_ofList, hfront, List.dropLast_concat,
      List.flatMap_append]
    exact List.dropLast_concat
  · rfl

/-- **The text before a line feed is the first line**, whatever bytes follow. -/
theorem textLines_append_lf {line : String} (h : '\n' ∉ line.toList) (rest : Bytes) :
    textLines (utf8 line ++ lf :: rest) = some (chompText line) :: textLines rest := by
  rw [textLines, lines_append_lf (mt lf_mem_utf8_iff.1 h), List.map_cons, chomp_utf8, ofUtf8?_utf8]
  rfl

/-- A text without line feeds that is not empty is one line, and stays as it is: no line feed takes
its carriage return away. -/
theorem textLines_utf8 {line : String} (h : '\n' ∉ line.toList) (hne : line ≠ "") :
    textLines (utf8 line) = [some line] := by
  rw [textLines, lines_eq_singleton (mt lf_mem_utf8_iff.1 h) (mt utf8_eq_nil_iff.1 hne),
    List.map_singleton, ofUtf8?_utf8]

/-- Induction over the pieces between separators: the last piece, and one piece before the
others. -/
theorem piece_induction {α : Type} [DecidableEq α] (sep : α) {motive : List α → Prop}
    (last : ∀ piece, sep ∉ piece → motive piece)
    (cons : ∀ piece rest, sep ∉ piece → motive rest → motive (piece ++ sep :: rest)) (l : List α) :
    motive l := by
  by_cases h : sep ∈ l
  · obtain ⟨piece, rest, hl, hpiece⟩ := List.eq_append_cons_of_mem h
    rw [hl]
    exact cons piece rest hpiece (piece_induction sep last cons rest)
  · exact last l h
termination_by l.length
decreasing_by
  simp only [hl, List.length_append, List.length_cons]
  omega

/-- No line holds a line feed. -/
theorem lf_not_mem_of_mem_lines {bytes line : Bytes} (h : line ∈ lines bytes) : lf ∉ line := by
  induction bytes using piece_induction lf with
  | last piece hpiece =>
    by_cases hne : piece = []
    · simp [hne] at h
    · rw [lines_eq_singleton hpiece hne, List.mem_singleton] at h
      rwa [h]
  | cons piece rest hpiece ih =>
    rw [lines_append_lf hpiece] at h
    rcases List.mem_cons.1 h with rfl | h
    · unfold chomp
      split
      · exact fun hmem ↦ hpiece (List.dropLast_subset _ hmem)
      · exact hpiece
    · exact ih h

/-- No line that is a text holds a line feed. -/
theorem not_mem_of_mem_textLines {bytes : Bytes} {line : String} (h : some line ∈ textLines bytes) :
    '\n' ∉ line.toList := by
  obtain ⟨bytes', hmem, heq⟩ := List.mem_map.1 h
  rw [ofUtf8?_eq_some_iff] at heq
  subst heq
  exact mt lf_mem_utf8_iff.2 (lf_not_mem_of_mem_lines hmem)

/-- The content of a file with these lines, each ended by a line feed. -/
def ofLines (lines : List String) : Bytes :=
  lines.flatMap fun line ↦ utf8 line ++ [lf]

end Tabular.Text
