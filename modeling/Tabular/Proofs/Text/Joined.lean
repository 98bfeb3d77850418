import Mathlib.Data.Finset.Max
import Tabular.Proofs.Text.Lines
import Tabular.Text.Bytes

/-!
# Fields in a line

What a line of joined fields holds, how many fields it is split into, and how it ends. The line is
split into one field more than it holds commas (`length_splitFields`), so into as many as were
joined only if none of them holds a comma (`count_joinFields`).

A line that is read is chomped: a carriage return at its end is gone. Of lines that come back, one
that ends in a carriage return must have been a longer one, which ended in one too
(`EndsInCr.of_chompText`). So none of finitely many lines does, if chomping them makes all of them
again (`not_endsInCr_of_chompText`).

Commas are counted rather than located. The number of fields that come back is all that is needed to
see that a comma was in a field, and counting goes through joining, splitting and chomping without a
case for each position. For the same reason the argument about carriage returns is one of lengths:
it names the longest line that ends in one.
-/

namespace Tabular.Text

theorem joinFields_cons_cons (f g : String) (fields : List String) :
    joinFields (f :: g :: fields) = f ++ "," ++ joinFields (g :: fields) :=
  String.intercalate_cons_cons

@[simp] theorem joinFields_singleton (f : String) : joinFields [f] = f :=
  String.intercalate_singleton

/-- Other characters than commas stand in a line if they stand in one of its fields. -/
theorem mem_joinFields_iff {c : Char} (hc : c ≠ ',') {fields : List String} :
    c ∈ (joinFields fields).toList ↔ ∃ f ∈ fields, c ∈ f.toList := by
  cases fields with
  | nil => simp [joinFields]
  | cons f fields =>
    induction fields generalizing f with
    | nil => simp
    | cons g fields ih =>
      have hcomma : c ∉ ",".toList := by simpa using hc
      rw [joinFields_cons_cons, String.toList_append, String.toList_append, List.mem_append,
        List.mem_append, ih, or_iff_left hcomma]
      simp

/-- A line holds the commas of its fields, and one between each two. -/
theorem count_joinFields {fields : List String} (hne : fields ≠ []) :
    (joinFields fields).toList.count ',' + 1 =
      fields.length + (fields.flatMap String.toList).count ',' := by
  cases fields with
  | nil => exact absurd rfl hne
  | cons f fields =>
    clear hne
    induction fields generalizing f with
    | nil => simp [Nat.add_comm]
    | cons g fields ih =>
      have hcomma : ",".toList.count ',' = 1 := by decide
      have hrest := ih g
      rw [joinFields_cons_cons, String.toList_append, String.toList_append, List.count_append,
        List.count_append, hcomma, List.flatMap_cons, List.count_append, List.length_cons]
      omega

/-- No piece between separators holds a separator. -/
theorem not_mem_of_mem_splitOn {α : Type} [DecidableEq α] {sep : α} {l piece : List α}
    (h : piece ∈ l.splitOn sep) : sep ∉ piece := by
  induction l using piece_induction sep with
  | last last hlast =>
    rw [List.splitOn_eq_singleton hlast, List.mem_singleton] at h
    rwa [h]
  | cons first rest hfirst ih =>
    rw [List.splitOn_append_cons_self_of_not_mem hfirst] at h
    rcases List.mem_cons.1 h with rfl | h
    · exact hfirst
    · exact ih h

theorem not_mem_of_mem_splitFields {line f : String} (h : f ∈ splitFields line) :
    ',' ∉ f.toList := by
  obtain ⟨piece, hpiece, rfl⟩ := List.mem_map.1 h
  rw [String.toList_ofList]
  exact not_mem_of_mem_splitOn hpiece

/-- A field holds no character that its line does not hold. -/
theorem mem_of_mem_splitFields {line f : String} {c : Char} (hc : c ≠ ',')
    (h : f ∈ splitFields line) (hmem : c ∈ f.toList) : c ∈ line.toList := by
  rw [← joinFields_splitFields line]
  exact (mem_joinFields_iff hc).2 ⟨f, h, hmem⟩

/-- **A line is split into one field more than it holds commas.** -/
theorem length_splitFields (line : String) :
    (splitFields line).length = line.toList.count ',' + 1 := by
  have hcount := count_joinFields (splitFields_ne_nil line)
  have hnone : ((splitFields line).flatMap String.toList).count ',' = 0 := by
    rw [List.count_eq_zero, List.mem_flatMap]
    rintro ⟨f, hf, hmem⟩
    exact not_mem_of_mem_splitFields hf hmem
  rw [joinFields_splitFields, hnone] at hcount
  exact hcount.symm

/-! ### The end of a line -/

/-- The last character of the text is a carriage return. -/
def EndsInCr (s : String) : Prop :=
  s.toList.getLast? = some '\r'

instance : DecidablePred EndsInCr :=
  fun s ↦ inferInstanceAs (Decidable (s.toList.getLast? = some '\r'))

/-- A line ends as its last field does, or in a comma. -/
theorem endsInCr_joinFields_iff {fields : List String} :
    EndsInCr (joinFields fields) ↔ ∃ last ∈ fields.getLast?, EndsInCr last := by
  cases fields with
  | nil => simp [joinFields, EndsInCr]
  | cons f fields =>
    induction fields generalizing f with
    | nil => simp
    | cons g fields ih =>
      have hlast : EndsInCr (joinFields (f :: g :: fields)) ↔
          EndsInCr (joinFields (g :: fields)) := by
        rw [EndsInCr, joinFields_cons_cons, String.toList_append, List.getLast?_append, EndsInCr,
          String.toList_append, List.getLast?_append]
        cases (joinFields (g :: fields)).toList.getLast? <;> simp
      rw [hlast, ih, List.getLast?_cons_cons]

/-- Chomping changes a text exactly if it ends in a carriage return. -/
theorem chompText_eq_self_iff {s : String} : chompText s = s ↔ ¬ EndsInCr s := by
  unfold chompText
  split
  · next h =>
    refine ⟨fun heq ↦ ?_, fun hnot ↦ absurd h hnot⟩
    obtain ⟨front, hfront⟩ := List.getLast?_eq_some_iff.1 h
    have hlength := congrArg (List.length ∘ String.toList) heq
    simp [hfront] at hlength
  · next h => exact ⟨fun _ ↦ h, fun _ ↦ rfl⟩

/-- No comma is lost with a carriage return. -/
theorem count_chompText (s : String) : (chompText s).toList.count ',' = s.toList.count ',' := by
  unfold chompText
  split
  · next h =>
    obtain ⟨front, hfront⟩ := List.getLast?_eq_some_iff.1 h
    simp [hfront]
  · rfl

/-- **A field with a comma makes a field too many.** -/
theorem not_mem_of_length_splitFields {fields : List String}
    (h : (splitFields (chompText (joinFields fields))).length = fields.length) :
    ∀ f ∈ fields, ',' ∉ f.toList := by
  intro f hf hmem
  have hcount := count_joinFields (List.ne_nil_of_mem hf)
  rw [length_splitFields, count_chompText] at h
  have hnone : (fields.flatMap String.toList).count ',' = 0 := by omega
  exact List.count_eq_zero.1 hnone (List.mem_flatMap.2 ⟨f, hf, hmem⟩)

/-- **A line that still ends in a carriage return was longer, and ended in one.** -/
theorem EndsInCr.of_chompText {s : String} (h : EndsInCr (chompText s)) :
    EndsInCr s ∧ (chompText s).length < s.length := by
  by_cases hs : EndsInCr s
  · refine ⟨hs, ?_⟩
    obtain ⟨front, hfront⟩ := List.getLast?_eq_some_iff.1 hs
    have hchomp : chompText s = String.ofList front := by
      rw [chompText, if_pos (show s.toList.getLast? = some '\r' from hs), hfront,
        List.dropLast_concat]
    rw [hchomp, ← String.length_toList, ← String.length_toList, hfront]
    simp
  · rw [chompText_eq_self_iff.2 hs] at h
    exact absurd h hs

/-- **Of lines that are all made again by chomping them, none ends in a carriage return**: the
longest of those that do would have been longer. -/
theorem not_endsInCr_of_chompText {lines : List String}
    (h : ∀ line ∈ lines, ∃ longer ∈ lines, chompText longer = line) :
    ∀ line ∈ lines, ¬ EndsInCr line := by
  intro line hline hends
  obtain ⟨longest, hlongest, hmax⟩ :=
    (lines.toFinset.filter EndsInCr).exists_max_image String.length
    ⟨line, by simp [hline, hends]⟩
  obtain ⟨hmem, hcr⟩ : longest ∈ lines ∧ EndsInCr longest := by simpa using hlongest
  -- the longest such line is chomped from one that is longer still
  obtain ⟨longer, hlonger, rfl⟩ := h longest hmem
  obtain ⟨hcr', hlt⟩ := hcr.of_chompText
  have hle := hmax longer (by simp [hlonger, hcr'])
  omega

end Tabular.Text
