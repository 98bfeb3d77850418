import Mathlib.Algebra.Group.Nat.Defs
import Tabular.Proofs.Text.Lines
import Tabular.Relation

/-!
# Texts in the order of their bytes

Texts are compared character by character. Comparing their encodings byte by byte comes to the same,
however long the encodings are. The bytes of a character are the digits of its code point in base
64, and the first of them has a mark that tells how many follow (`Text.utf8EncodeChar_eq`). Digits
of equal number are compared like the numbers (`compare_div_mod`), and of two marks the one for more
digits is greater than any byte with the other (`Text.leading_lt`).

So what two characters compare as is settled within their encodings, before anything behind them is
looked at (`Text.compare_utf8EncodeChar_append`). Whole texts follow by induction
(`Text.compare_utf8`), and the six relations follow from what texts compare as
(`Relation.holds_eq_admits`).

Comparison is taken as an `Ordering` throughout and not as six relations. Then what two texts
compare as is an equation that goes through concatenation by `Ordering.then`, one character at a
time, and the lengths of encodings need no cases of their own beyond the four in
`Text.leading_cases`. The relations come in at the very end, as what they admit.

That the order of texts is total and antisymmetric is taken from the order of code points. It is not
the order of the words of a language, and not that of units of two bytes either, which would put
characters beyond the basic plane before some of those within it.
-/

namespace Tabular

/-! ### Digits -/

theorem compare_add_left (k m n : Nat) : compare (k + m) (k + n) = compare m n := by
  simp only [Nat.compare_eq_ite_lt, Nat.add_lt_add_iff_left]

/-- **Numbers are compared by their front digits first and by the others second.** -/
theorem compare_div_mod (b m n : Nat) :
    compare m n = (compare (m / b) (n / b)).then (compare (m % b) (n % b)) := by
  rcases Nat.lt_trichotomy (m / b) (n / b) with hlt | heq | hgt
  · rw [Nat.compare_eq_lt.2 hlt, Nat.compare_eq_lt.2 (Nat.lt_of_div_lt_div hlt)]
    rfl
  · have hm : b * (n / b) + m % b = m := heq ▸ Nat.div_add_mod m b
    have hn : b * (n / b) + n % b = n := Nat.div_add_mod n b
    rw [Nat.compare_eq_eq.2 heq, Ordering.eq_then, ← compare_add_left (b * (n / b)) (m % b), hm, hn]
  · rw [Nat.compare_eq_gt.2 hgt, Nat.compare_eq_gt.2 (Nat.lt_of_div_lt_div hgt)]
    rfl

namespace Text

/-! ### The bytes of a character -/

theorem compare_ofNat {m n : Nat} (hm : m < 256) (hn : n < 256) :
    compare (UInt8.ofNat m) (UInt8.ofNat n) = compare m n := by
  have hlt {m n : Nat} (hm : m < 256) (hn : n < 256) : UInt8.ofNat m < UInt8.ofNat n ↔ m < n := by
    rw [UInt8.lt_iff_toNat_lt, UInt8.toNat_ofNat', UInt8.toNat_ofNat', Nat.mod_eq_of_lt hm,
      Nat.mod_eq_of_lt hn]
  rcases Nat.lt_trichotomy m n with h | rfl | h
  · rw [Nat.compare_eq_lt.2 h, Std.compare_eq_lt, hlt hm hn]
    exact h
  · rw [Nat.compare_eq_eq.2 rfl, Std.compare_eq_iff_eq]
  · rw [Nat.compare_eq_gt.2 h, Std.compare_eq_gt, hlt hn hm]
    exact h

/-- How many bytes of a code point follow the first. -/
def following (n : Nat) : Nat :=
  if n < 0x80 then 0 else if n < 0x800 then 1 else if n < 0x10000 then 2 else 3

/-- The mark of a first byte that so many bytes follow. -/
def mark : Nat → Nat
  | 0 => 0
  | 1 => 0xC0
  | 2 => 0xE0
  | _ => 0xF0

/-- The first byte: the front digits of a code point and the mark. -/
def leading (n : Nat) : Nat :=
  mark (following n) + n / 64 ^ following n

/-- The last digits of a number in base 64, each in a byte with the mark of those that follow. -/
def trailing (n : Nat) : Nat → Bytes
  | 0 => []
  | k + 1 => .ofNat (0x80 + n / 64 ^ k % 64) :: trailing n k

/-- **The four lengths of an encoding**, each with its range of first bytes. -/
theorem leading_cases (n : Nat) :
    n < 0x80 ∧ following n = 0 ∧ leading n = n ∨
    (0x80 ≤ n ∧ n < 0x800) ∧ following n = 1 ∧ leading n = 0xC0 + n / 64 ∨
    (0x800 ≤ n ∧ n < 0x10000) ∧ following n = 2 ∧ leading n = 0xE0 + n / 4096 ∨
    0x10000 ≤ n ∧ following n = 3 ∧ leading n = 0xF0 + n / 262144 := by
  have hleading {k : Nat} (h : following n = k) : leading n = mark k + n / 64 ^ k := by
    rw [leading, h]
  by_cases h₁ : n < 0x80
  · have hk : following n = 0 := if_pos h₁
    exact .inl ⟨h₁, hk, by simpa [mark] using hleading hk⟩
  by_cases h₂ : n < 0x800
  · have hk : following n = 1 := by rw [following, if_neg h₁, if_pos h₂]
    exact .inr (.inl ⟨⟨Nat.le_of_not_lt h₁, h₂⟩, hk, hleading hk⟩)
  by_cases h₃ : n < 0x10000
  · have hk : following n = 2 := by rw [following, if_neg h₁, if_neg h₂, if_pos h₃]
    exact .inr (.inr (.inl ⟨⟨Nat.le_of_not_lt h₂, h₃⟩, hk, hleading hk⟩))
  · have hk : following n = 3 := by rw [following, if_neg h₁, if_neg h₂, if_neg h₃]
    exact .inr (.inr (.inr ⟨Nat.le_of_not_lt h₃, hk, hleading hk⟩))

/-- The first of the digits that a code point is written with fits into a byte. -/
theorem leading_lt_256 {n : Nat} (h : n < 0x110000) : leading n < 256 := by
  have hn := leading_cases n
  omega

/-- **The more bytes follow, the greater is the first.** -/
theorem leading_lt {m n : Nat} (h : following m < following n) : leading m < leading n := by
  have hm := leading_cases m
  have hn := leading_cases n
  omega

/-- A code point that takes more bytes is greater. -/
theorem lt_of_following_lt {m n : Nat} (h : following m < following n) : m < n := by
  have hm := leading_cases m
  have hn := leading_cases n
  omega

/-- Characters end at U+10FFFF, so four bytes are enough. -/
theorem toNat_lt (c : Char) : c.toNat < 0x110000 := by
  rcases c.valid with h | ⟨-, h⟩
  · exact Nat.lt_trans h (by decide)
  · exact h

/-- **A character is encoded in the digits of its code point.** -/
theorem utf8EncodeChar_eq (c : Char) :
    String.utf8EncodeChar c = .ofNat (leading c.toNat) :: trailing c.toNat (following c.toNat) := by
  have hc := toNat_lt c
  have hbyte {m n : Nat} (h : m = n) : UInt8.ofNat m = UInt8.ofNat n := congrArg UInt8.ofNat h
  unfold String.utf8EncodeChar
  simp only [Char.toNat_val]
  rcases leading_cases c.toNat with ⟨h, hk, hl⟩ | ⟨h, hk, hl⟩ | ⟨h, hk, hl⟩ | ⟨h, hk, hl⟩
  · rw [if_pos (by omega), hk, hl]
    rfl
  · rw [if_neg (by omega), if_pos (by omega), hk, hl]
    simp only [trailing, Nat.reducePow, List.cons.injEq, and_true]
    exact ⟨hbyte (by omega), hbyte (by omega)⟩
  · rw [if_neg (by omega), if_neg (by omega), if_pos (by omega), hk, hl]
    simp only [trailing, Nat.reducePow, List.cons.injEq, and_true]
    exact ⟨hbyte (by omega), hbyte (by omega), hbyte (by omega)⟩
  · rw [if_neg (by omega), if_neg (by omega), if_neg (by omega), hk, hl]
    simp only [trailing, Nat.reducePow, List.cons.injEq, and_true]
    exact ⟨hbyte (by omega), hbyte (by omega), hbyte (by omega), hbyte (by omega)⟩

/-- The bytes behind the first are compared like the numbers that their digits make. -/
theorem compare_trailing_append (m n k : Nat) (u v : Bytes) :
    compare (trailing m k ++ u) (trailing n k ++ v) =
      (compare (m % 64 ^ k) (n % 64 ^ k)).then (compare u v) := by
  induction k with
  | zero => simp [trailing, Nat.mod_one]
  | succ k ih =>
    -- the first of these digits is what is left when the others are divided off
    rw [trailing, trailing, List.cons_append, List.cons_append, List.compare_cons_cons, ih,
      compare_ofNat (by omega) (by omega), compare_add_left, ← Ordering.then_assoc, Nat.pow_succ,
      compare_div_mod (64 ^ k) (m % (64 ^ k * 64)), Nat.mod_mul_right_div_self,
      Nat.mod_mul_right_div_self, Nat.mod_mul_right_mod, Nat.mod_mul_right_mod]

/-- **What two characters compare as is settled within their encodings**, and only equal ones leave
it to what is behind them. -/
theorem compare_utf8EncodeChar_append (c d : Char) (u v : Bytes) :
    compare (String.utf8EncodeChar c ++ u) (String.utf8EncodeChar d ++ v) =
      (compare c.toNat d.toNat).then (compare u v) := by
  have hc := leading_lt_256 (toNat_lt c)
  have hd := leading_lt_256 (toNat_lt d)
  rw [utf8EncodeChar_eq, utf8EncodeChar_eq, List.cons_append, List.cons_append,
    List.compare_cons_cons, compare_ofNat hc hd]
  rcases Nat.lt_trichotomy (following c.toNat) (following d.toNat) with hlt | heq | hgt
  · rw [Nat.compare_eq_lt.2 (leading_lt hlt), Nat.compare_eq_lt.2 (lt_of_following_lt hlt)]
    rfl
  · -- one mark and equally many digits: the digits put together again
    rw [leading, leading, heq, compare_add_left, compare_trailing_append, ← Ordering.then_assoc,
      ← compare_div_mod]
  · rw [Nat.compare_eq_gt.2 (leading_lt hgt), Nat.compare_eq_gt.2 (lt_of_following_lt hgt)]
    rfl

/-! ### Texts -/

/-- The code points of a text. -/
def codePoints (s : String) : List Nat :=
  s.toList.map Char.toNat

/-- **Comparing by bytes is comparing by code points.** -/
theorem compare_utf8 (l r : String) :
    compare (utf8 l) (utf8 r) = compare (codePoints l) (codePoints r) := by
  rw [utf8_eq_flatMap, utf8_eq_flatMap, codePoints, codePoints]
  generalize l.toList = cs, r.toList = ds
  induction cs generalizing ds with
  | nil =>
    cases ds with
    | nil => rfl
    | cons d ds => rw [List.flatMap_nil, List.flatMap_cons, utf8EncodeChar_eq]; rfl
  | cons c cs ih =>
    cases ds with
    | nil => rw [List.flatMap_nil, List.flatMap_cons, utf8EncodeChar_eq]; rfl
    | cons d ds =>
      rw [List.flatMap_cons, List.flatMap_cons, compare_utf8EncodeChar_append, ih, List.map_cons,
        List.map_cons, List.compare_cons_cons]

/-- Texts are less than others exactly if their code points are. -/
theorem compare_codePoints_eq_lt_iff {l r : String} :
    compare (codePoints l) (codePoints r) = .lt ↔ l < r := by
  rw [String.lt_iff, codePoints, codePoints]
  generalize l.toList = cs, r.toList = ds
  induction cs generalizing ds with
  | nil => cases ds <;> simp
  | cons c cs ih =>
    cases ds with
    | nil => simp
    | cons d ds =>
      rw [List.map_cons, List.map_cons, List.compare_cons_cons, Ordering.then_eq_lt, ih,
        Nat.compare_eq_lt, Nat.compare_eq_eq, Char.toNat_inj, List.cons_lt_cons_iff]
      rfl

/-- A text is told by its code points. -/
theorem codePoints_injective : Function.Injective codePoints := by
  intro l r h
  exact String.toList_inj.1 ((List.map_inj_right fun _ _ ↦ Char.toNat_inj.1).1 h)

/-- Only a text itself has the same code points. -/
theorem compare_codePoints_eq_eq_iff {l r : String} :
    compare (codePoints l) (codePoints r) = .eq ↔ l = r := by
  rw [Std.compare_eq_iff_eq, codePoints_injective.eq_iff]

theorem compare_codePoints_eq_gt_iff {l r : String} :
    compare (codePoints l) (codePoints r) = .gt ↔ r < l := by
  rw [Std.OrientedOrd.eq_swap, Ordering.swap_eq_gt, compare_codePoints_eq_lt_iff]

end Text

namespace Relation

/-- Whether the relation holds between what compares in the given way. -/
def admits : Relation → Ordering → Bool
  | eq, o => o == .eq
  | ne, o => o != .eq
  | lt, o => o == .lt
  | le, o => o != .gt
  | gt, o => o == .gt
  | ge, o => o != .lt

/-- **The relation holds if it admits what the texts compare as.** -/
theorem holds_eq_admits (rel : Relation) (l r : String) :
    rel.holds l r = rel.admits (compare (Text.codePoints l) (Text.codePoints r)) := by
  cases hcompare : compare (Text.codePoints l) (Text.codePoints r) with
  | lt =>
    have hlt := Text.compare_codePoints_eq_lt_iff.1 hcompare
    cases rel <;> simp [holds, admits, bne, hlt, String.lt_asymm hlt, String.ne_of_lt hlt]
  | eq =>
    obtain rfl := Text.compare_codePoints_eq_eq_iff.1 hcompare
    cases rel <;> simp [holds, admits]
  | gt =>
    have hgt := Text.compare_codePoints_eq_gt_iff.1 hcompare
    cases rel <;> simp [holds, admits, bne, hgt, String.lt_asymm hgt, (String.ne_of_lt hgt).symm]

/-- Not being greater is being less or equal, since the order is total. -/
theorem holds_le_iff {l r : String} : le.holds l r = true ↔ l ≤ r := by
  rw [holds, Bool.not_eq_true', decide_eq_false_iff_not, String.not_lt]

/-- A text comes after its beginnings. -/
theorem holds_lt_of_begins {l r : String} (h : l.toList <+: r.toList) (hne : l ≠ r) :
    lt.holds l r = true := by
  obtain ⟨more, hmore⟩ := h
  cases more with
  | nil => exact absurd (String.toList_inj.1 ((List.append_nil _).symm.trans hmore)) hne
  | cons c more =>
    have hlt : l.toList ++ [] < l.toList ++ c :: more :=
      List.append_left_lt (List.nil_lt_cons c more)
    rw [List.append_nil, hmore] at hlt
    exact decide_eq_true hlt

/-- **Comparing texts by bytes is comparing them by code points.** For each of the six relations the
bytes of two texts give the same answer as the code points, both in lexicographic order. The order
is total, antisymmetric and transitive, a text comes after its proper beginnings, and only identical
texts are equal. -/
theorem holds_bytewise :
    (∀ (rel : Relation) (l r : String),
      rel.holds l r = rel.admits (compare (Text.utf8 l) (Text.utf8 r)) ∧
      rel.holds l r = rel.admits (compare (Text.codePoints l) (Text.codePoints r))) ∧
    (∀ l r, le.holds l r = true ∨ le.holds r l = true) ∧
    (∀ l r, le.holds l r = true → le.holds r l = true → l = r) ∧
    (∀ l m r, le.holds l m = true → le.holds m r = true → le.holds l r = true) ∧
    (∀ l r : String, l.toList <+: r.toList → l ≠ r → lt.holds l r = true) ∧
    ∀ l r, eq.holds l r = true ↔ l = r := by
  simp only [holds_le_iff]
  refine ⟨fun rel l r ↦ ⟨?_, holds_eq_admits rel l r⟩, String.le_total,
    fun _ _ ↦ String.le_antisymm, fun _ _ _ ↦ String.le_trans, fun _ _ ↦ holds_lt_of_begins,
    fun _ _ ↦ beq_iff_eq⟩
  rw [Text.compare_utf8, holds_eq_admits]

/-- The last character of the basic plane and one beyond it, which would come first if units of two
bytes were compared; numbers, which are texts; and a text and its beginning. -/
theorem holds_bytewise_planes :
    (lt.holds "\uFFFF" "😀" = lt.admits (compare (Text.utf8 "\uFFFF") (Text.utf8 "😀")) ∧
      lt.holds "\uFFFF" "😀" = true) ∧
    (le.holds "é" "é" = true ∧ "é" = "é") ∧
    (le.holds "10" "9" = true ∧ le.holds "9" "é" = true ∧ le.holds "10" "é" = true) ∧
    ("a".toList <+: "aé".toList ∧ "a" ≠ "aé" ∧ lt.holds "a" "aé" = true) := by
  obtain ⟨hholds, -, hantisymm, htrans, hbegins, -⟩ := holds_bytewise
  have hself : le.holds "é" "é" = true := by decide +kernel
  have hdigits : le.holds "10" "9" = true := by decide +kernel
  have hletter : le.holds "9" "é" = true := by decide +kernel
  have hfront : "a".toList <+: "aé".toList := by decide +kernel
  have hne : "a" ≠ "aé" := by decide
  exact ⟨⟨(hholds lt "\uFFFF" "😀").1, by decide +kernel⟩, ⟨hself, hantisymm _ _ hself hself⟩,
    ⟨hdigits, hletter, htrans _ _ _ hdigits hletter⟩, ⟨hfront, hne, hbegins _ _ hfront hne⟩⟩

end Relation

end Tabular
