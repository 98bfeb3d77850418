/-!
# Spans of code points

A property of characters is kept as the increasing list of the spans of code points that have it.
The search stops at the first span that begins beyond the code point, so plain letters are found at
once; `covers_iff` says that for an ordered list nothing is lost by stopping early. So a table comes
with a proof that it is ordered where proofs look into it, and a character is then told by the span
that it stands in (`isBlank_iff`, `isAlphanumeric_iff`).

The shortest table is that of blanks, Unicode's `White_Space` property, 25 code points in
all. Blanks are what the query language skips between lexemes, and what a line may hold and still
count as empty. The tables of letters and digits, of marks and of what cannot be shown have modules
of their own.
-/

namespace Tabular.Text

/-- Spans of code points, each with its first and last member. -/
abbrev Spans := List (Nat × Nat)

namespace Spans

/-- Every span is in order and ends before the next one begins. -/
def Ordered : Spans → Prop
  | [] => True
  | (first, last) :: rest => first ≤ last ∧ (∀ s ∈ rest.head?, last < s.1) ∧ Ordered rest

/-- Whether a table is ordered is found out by going through it once. -/
instance decidableOrdered : (spans : Spans) → Decidable (Ordered spans)
  | [] => .isTrue trivial
  | (_, _) :: rest =>
    have := decidableOrdered rest
    inferInstanceAs (Decidable (_ ∧ _ ∧ _))

/-- Whether a code point lies in one of the spans. -/
def covers : Spans → Nat → Bool
  | [], _ => false
  | (first, last) :: rest, n => first ≤ n && (n ≤ last || covers rest n)

/-- What is found lies in a span, whether or not the list is ordered. -/
theorem exists_of_covers {spans : Spans} {n : Nat} (h : spans.covers n = true) :
    ∃ s ∈ spans, s.1 ≤ n ∧ n ≤ s.2 := by
  induction spans with
  | nil => simp [covers] at h
  | cons s rest ih =>
    simp only [covers, Bool.and_eq_true, Bool.or_eq_true, decide_eq_true_eq] at h
    rcases h with ⟨hfirst, hlast | hrest⟩
    · exact ⟨s, by simp, hfirst, hlast⟩
    · obtain ⟨t, ht, hn⟩ := ih hrest
      exact ⟨t, by simp [ht], hn⟩

/-- The first span of an ordered list begins first. -/
theorem Ordered.first_le_of_mem {first last : Nat} {rest : Spans}
    (h : Ordered ((first, last) :: rest)) {s : Nat × Nat} (hs : s ∈ rest) : first ≤ s.1 := by
  induction rest generalizing first last with
  | nil => simp at hs
  | cons t rest ih =>
    obtain ⟨hle, hnext, hrest⟩ := h
    have ht : last < t.1 := hnext t (by simp)
    rcases List.mem_cons.1 hs with rfl | hs
    · omega
    · have := ih hrest hs
      omega

/-- **Stopping early loses nothing** in an ordered list. -/
theorem covers_iff {spans : Spans} (h : spans.Ordered) {n : Nat} :
    spans.covers n = true ↔ ∃ s ∈ spans, s.1 ≤ n ∧ n ≤ s.2 := by
  refine ⟨exists_of_covers, ?_⟩
  rintro ⟨s, hs, hn⟩
  induction spans with
  | nil => simp at hs
  | cons t rest ih =>
    simp only [covers, Bool.and_eq_true, Bool.or_eq_true, decide_eq_true_eq]
    rcases List.mem_cons.1 hs with rfl | hs
    · exact ⟨hn.1, .inl hn.2⟩
    · exact ⟨Nat.le_trans (h.first_le_of_mem hs) hn.1, .inr (ih h.2.2 hs)⟩

end Spans

/-! ### Blanks -/

/-- The code points of `White_Space`, in increasing spans. -/
def blankSpans : Spans := [
  (0x0009, 0x000D), (0x0020, 0x0020), (0x0085, 0x0085), (0x00A0, 0x00A0), (0x1680, 0x1680),
  (0x2000, 0x200A), (0x2028, 0x2029), (0x202F, 0x202F), (0x205F, 0x205F), (0x3000, 0x3000)]

/-- A blank separates words and stands for nothing itself. -/
def isBlank (c : Char) : Bool :=
  blankSpans.covers c.toNat

/-- The table of blanks may be searched from the front. -/
theorem ordered_blankSpans : blankSpans.Ordered := by decide

/-- A character is blank exactly if it stands in one of the spans. -/
theorem isBlank_iff {c : Char} :
    isBlank c = true ↔ ∃ s ∈ blankSpans, s.1 ≤ c.toNat ∧ c.toNat ≤ s.2 :=
  Spans.covers_iff ordered_blankSpans

end Tabular.Text
