import Tabular.Proofs.Token.Layout

/-!
# Keywords in either case

A word is looked up among the keywords in lower case, and lower case is Unicode's. There are
characters beyond ASCII whose lower-case form is an ASCII letter, or begins with one. They make no
keyword of a word: the Kelvin sign becomes `k`, which stands in no keyword, and a dotted capital I
becomes `i` and a dot, which no keyword has behind its `i` (`Text.exists_mem_lowerChar`). A capital
sigma has a form of its own at the end of a word, but neither form is ASCII, so it does not matter
which of them is taken (`Text.LowerForm`).

So the words that are read as a keyword are those that differ from it in the case of ASCII letters
only (`Token.next_word`).

The tables of lower-case forms are those of Unicode (`Text.caseRuns`), and what is needed of them is
settled by going through the table once (`Text.isBeyondAscii_of_mem`). Everything after that is
about one character at a time.

The statement for words is an equivalence, and its two directions use different halves of this: that
a keyword in other letters is found uses lower case within ASCII only, and that nothing else is
found uses what lower case does beyond it.
-/

namespace Tabular

namespace Text

/-! ### Lower-case forms -/

/-- The lower-case forms of a text. A capital sigma has two, one within a word and one at the end of
a word. -/
inductive LowerForm : List Char → List Char → Prop
  | nil : LowerForm [] []
  | cons (c : Char) {cs lowered : List Char} (h : LowerForm cs lowered) :
    LowerForm (c :: cs) (lowerChar c ++ lowered)
  | finalSigma {cs lowered : List Char} (h : LowerForm cs lowered) :
    LowerForm ('Σ' :: cs) ('ς' :: lowered)

/-- The form that words are looked up in is one of the lower-case forms. -/
theorem lowerForm_lower (cs : List Char) : LowerForm cs (lower cs) := by
  induction cs with
  | nil => exact .nil
  | cons c cs ih => exact .cons c ih

/-- Whether the lower-case forms of a run are characters beyond ASCII. -/
def CaseRun.IsBeyondAscii (r : CaseRun) : Prop :=
  128 ≤ r.lower ∧ (r.lower + (r.last - r.first) < 0xD800 ∨
    0xDFFF < r.lower ∧ r.lower + (r.last - r.first) < 0x110000)

instance (r : CaseRun) : Decidable r.IsBeyondAscii :=
  inferInstanceAs (Decidable (_ ∧ (_ ∨ _ ∧ _)))

/-- **Capitals beyond ASCII have lower-case forms beyond ASCII**, but for the Kelvin sign. -/
theorem isBeyondAscii_of_mem : ∀ r ∈ caseRuns, 128 ≤ r.last →
    r.IsBeyondAscii ∨ r.first = 0x212A ∧ r.last = 0x212A ∧ r.lower = 'k'.toNat := by
  decide +kernel

/-- The code points of a run are those of characters. -/
theorem toNat_ofNat_of_beyond {r : CaseRun} (h : r.IsBeyondAscii) {k : Nat}
    (hk : k ≤ r.last - r.first) : (Char.ofNat (r.lower + k)).toNat = r.lower + k := by
  obtain ⟨-, hvalid⟩ := h
  have hchar : (r.lower + k).isValidChar := by
    unfold Nat.isValidChar
    omega
  rw [Char.ofNat, dif_pos hchar]
  rfl

/-- **Within ASCII there is one run of capitals**: all others begin beyond it. -/
theorem find?_caseRuns_of_ascii {n : Nat} (h : n < 128) :
    caseRuns.find? (·.holds n) =
      if 0x41 ≤ n ∧ n ≤ 0x5A then some ⟨0x41, 0x5A, 1, 0x61⟩ else none := by
  have hruns : caseRuns = ⟨0x41, 0x5A, 1, 0x61⟩ :: caseRuns.tail := rfl
  have hbeyond : ∀ r ∈ caseRuns.tail, 128 ≤ r.first := by decide +kernel
  have hnone : caseRuns.tail.find? (·.holds n) = none := by
    refine List.find?_eq_none.2 fun r hr hholds ↦ ?_
    have hfirst := hbeyond r hr
    simp only [CaseRun.holds, Bool.and_eq_true, decide_eq_true_eq] at hholds
    omega
  have hholds : CaseRun.holds ⟨0x41, 0x5A, 1, 0x61⟩ n = decide (0x41 ≤ n ∧ n ≤ 0x5A) := by
    simp [CaseRun.holds, Nat.mod_one]
  rw [hruns, List.find?_cons, hnone, hholds]
  by_cases hcapital : 0x41 ≤ n ∧ n ≤ 0x5A
  · rw [decide_eq_true hcapital, if_pos hcapital]
  · rw [decide_eq_false hcapital, if_neg hcapital]

/-- The capitals of ASCII are one run, with the small letters at a fixed distance. -/
theorem toLower_of_ascii {c : Char} (h : c.toNat < 128) : c.toLower =
    if 0x41 ≤ c.toNat ∧ c.toNat ≤ 0x5A then Char.ofNat (0x61 + (c.toNat - 0x41)) else c := by
  have hall : ∀ n < 128, (Char.ofNat n).toLower =
      if 0x41 ≤ n ∧ n ≤ 0x5A then Char.ofNat (0x61 + (n - 0x41)) else Char.ofNat n := by
    decide +kernel
  have hc := hall c.toNat h
  rwa [Char.ofNat_toNat] at hc

/-- **Within ASCII the lower-case form is that of ASCII letters.** -/
theorem lowerChar_of_ascii {c : Char} (h : c.toNat < 128) : lowerChar c = [c.toLower] := by
  rw [lowerChar, if_neg (by omega), find?_caseRuns_of_ascii h, toLower_of_ascii h]
  by_cases hcapital : 0x41 ≤ c.toNat ∧ c.toNat ≤ 0x5A
  · rw [if_pos hcapital, if_pos hcapital]
  · rw [if_neg hcapital, if_neg hcapital]

/-- **A character beyond ASCII shows in lower case**: its form holds a character beyond ASCII again,
or is a `k`. -/
theorem exists_mem_lowerChar {c : Char} (h : 128 ≤ c.toNat) :
    ∃ d ∈ lowerChar c, 128 ≤ d.toNat ∨ d = 'k' := by
  unfold lowerChar
  split
  · -- the dot of the dotted capital
    exact ⟨Char.ofNat 0x0307, by simp, .inl (by decide)⟩
  · split
    · next r hfind =>
      have hholds := List.find?_some hfind
      simp only [CaseRun.holds, Bool.and_eq_true, decide_eq_true_eq] at hholds
      obtain ⟨⟨hfirst, hlast⟩, -⟩ := hholds
      refine ⟨_, List.mem_singleton_self _, ?_⟩
      rcases isBeyondAscii_of_mem r (List.mem_of_find?_eq_some hfind) (by omega) with
        hbeyond | ⟨hk, hk', hlower⟩
      · rw [toNat_ofNat_of_beyond hbeyond (by omega)]
        exact .inl (Nat.le_add_right_of_le hbeyond.1)
      · rw [hlower, show c.toNat - r.first = 0 by omega]
        exact .inr rfl
    · exact ⟨c, List.mem_singleton_self c, .inl h⟩

/-- **Lower case of ASCII texts without `k`**: no text beyond ASCII has it. -/
theorem LowerForm.eq_iff {cs lowered target : List Char} (h : LowerForm cs lowered)
    (htarget : ∀ t ∈ target, t.toNat < 128 ∧ t ≠ 'k') :
    lowered = target ↔ (∀ c ∈ cs, c.toNat < 128) ∧ cs.map Char.toLower = target := by
  induction h generalizing target with
  | nil => simp
  | @cons c cs lowered _ ih =>
    by_cases hc : c.toNat < 128
    · rw [lowerChar_of_ascii hc, List.forall_mem_cons, and_iff_right hc, List.map_cons]
      cases target with
      | nil => simp
      | cons t target =>
        have hrest := ih fun t' ht' ↦ htarget t' (List.mem_cons_of_mem t ht')
        rw [List.singleton_append, List.cons.injEq, List.cons.injEq, hrest, and_left_comm]
    · -- what is not ASCII shows in the lower-case form
      refine iff_of_false ?_ fun hascii ↦ hc (hascii.1 c List.mem_cons_self)
      rintro rfl
      obtain ⟨d, hd, hbeyond⟩ := exists_mem_lowerChar (Nat.le_of_not_lt hc)
      obtain ⟨hascii, hk⟩ := htarget d (List.mem_append_left _ hd)
      exact hbeyond.elim (Nat.not_le_of_lt hascii) hk
  | finalSigma =>
    refine iff_of_false ?_ fun hascii ↦ absurd (hascii.1 'Σ' List.mem_cons_self) (by decide)
    rintro rfl
    exact absurd (htarget 'ς' List.mem_cons_self).1 (by decide)

end Text

/-! ### Keywords -/

namespace Keyword

/-- Whether a word is the keyword but for the case of ASCII letters. -/
def SpelledBy (k : Keyword) (word : List Char) : Prop :=
  word.length = k.spelling.length ∧ (∀ c ∈ word, c.toNat < 128) ∧
    word.map Char.toLower = k.spelling.toList.map Char.toLower

instance (k : Keyword) (word : List Char) : Decidable (k.SpelledBy word) :=
  decidable_of_iff (word.length = k.spelling.length ∧ word.all (·.toNat < 128) = true ∧
      word.map Char.toLower = k.spelling.toList.map Char.toLower)
    (by simp only [SpelledBy, List.all_eq_true, decide_eq_true_eq])

variable {k : Keyword} {word lowered : List Char}

theorem map_toLower_spelling (k : Keyword) :
    k.spelling.toList.map Char.toLower = k.spelling.toList := by
  cases k <;> decide

/-- Keywords are spelled in ASCII, and none has a `k`, which the Kelvin sign could stand for. -/
theorem ascii_of_mem_spelling (k : Keyword) : ∀ t ∈ k.spelling.toList, t.toNat < 128 ∧ t ≠ 'k' := by
  have hall : k.spelling.toList.all (fun t ↦ t.toNat < 128 ∧ t ≠ 'k') = true := by
    cases k <;> decide
  simpa only [List.all_eq_true, decide_eq_true_eq] using hall

/-- **A word has a keyword for lower-case form exactly if it is that keyword** but for the case of
ASCII letters. -/
theorem spelledBy_iff (h : Text.LowerForm word lowered) :
    lowered = k.spelling.toList ↔ k.SpelledBy word := by
  rw [h.eq_iff k.ascii_of_mem_spelling, SpelledBy, map_toLower_spelling, iff_and_self]
  rintro ⟨-, hword⟩
  rw [← String.length_toList, ← hword, List.length_map]

theorem ofWord?_eq_some_iff : ofWord? word = some k ↔ k.SpelledBy word := by
  rw [← spelledBy_iff (Text.lowerForm_lower word)]
  constructor
  · intro h
    have hfound := List.find?_some (p := fun k : Keyword ↦ k.spelling.toList == Text.lower word) h
    exact (beq_iff_eq.1 hfound).symm
  · intro h
    rw [ofWord?, h]
    cases k <;> decide

end Keyword

namespace Token

variable {k : Keyword} {word rest : List Char}

theorem ofWord_eq_keyword_iff : ofWord word = keyword k ↔ k.SpelledBy word := by
  rw [← Keyword.ofWord?_eq_some_iff, ofWord]
  split
  · next k' hword => rw [hword, keyword.injEq, Option.some.injEq]
  · next hword => simp [hword]

theorem ofWord_eq_ident_iff :
    ofWord word = ident (String.ofList word) ↔ ∀ k : Keyword, ¬ k.SpelledBy word := by
  simp only [← Keyword.ofWord?_eq_some_iff, ← Option.eq_none_iff_forall_ne_some, ofWord]
  split
  · next hword => simp [hword]
  · next hword => simp [hword]

/-- **Keywords are recognised up to the case of ASCII letters only.** A run of word characters is
read as a keyword if it is that keyword but for the case of ASCII letters, and otherwise as the name
that it is. It does not matter in which of its forms a capital sigma is lowered. -/
theorem next_word (hword : IsWord word) (hrest : ∀ c ∈ rest.head?, isWordChar c = false) :
    (∀ k, next (word ++ rest) = .ok (keyword k) rest ↔ k.SpelledBy word) ∧
    (next (word ++ rest) = .ok (ident (String.ofList word)) rest ↔
      ∀ k : Keyword, ¬ k.SpelledBy word) ∧
    ∀ lowered, Text.LowerForm word lowered →
      ∀ k, next (word ++ rest) = .ok (keyword k) rest ↔ lowered = k.spelling.toList := by
  have hnext : next (word ++ rest) = .ok (ofWord word) rest :=
    next_eq_ok_iff.2 ⟨word, rfl, hword.lexeme, parts_ofWord_iff.2 hrest⟩
  have hkeyword (k : Keyword) :
      next (word ++ rest) = .ok (keyword k) rest ↔ k.SpelledBy word := by
    simp [hnext, ofWord_eq_keyword_iff]
  refine ⟨hkeyword, ?_, fun lowered h k ↦ ?_⟩
  · simp [hnext, ofWord_eq_ident_iff]
  · rw [hkeyword, Keyword.spelledBy_iff h]

/-- A keyword in letters of both cases, a name that is no keyword because a dot stays on its first
letter, and one whose lower-case form is ASCII. -/
theorem next_word_dotted :
    (IsWord "sElEcT".toList ∧ (∀ c ∈ ['*'].head?, isWordChar c = false) ∧
      next ("sElEcT".toList ++ ['*']) = .ok (keyword .select) ['*']) ∧
    (IsWord "\u0130nto".toList ∧ Text.LowerForm "\u0130nto".toList "i\u0307nto".toList ∧
      next ("\u0130nto".toList ++ ['*']) = .ok (ident "\u0130nto") ['*'] ∧
      next ("\u0130nto".toList ++ ['*']) ≠ .ok (keyword .into) ['*']) ∧
    (IsWord ['\u212A'] ∧ Text.LowerForm ['\u212A'] ['k'] ∧
      next (['\u212A'] ++ ['*']) = .ok (ident "\u212A") ['*']) := by
  have hstar : ∀ c ∈ ['*'].head?, isWordChar c = false := by
    rintro _ ⟨rfl⟩
    decide
  have hselect : IsWord "sElEcT".toList := by decide +kernel
  have hdotted : IsWord "\u0130nto".toList := by decide +kernel
  have hkelvin : IsWord ['\u212A'] := by decide +kernel
  have hform : Text.LowerForm "\u0130nto".toList "i\u0307nto".toList := by
    rw [show "i\u0307nto".toList = Text.lower "\u0130nto".toList by decide +kernel]
    exact Text.lowerForm_lower _
  have hform' : Text.LowerForm ['\u212A'] ['k'] := by
    rw [show ['k'] = Text.lower ['\u212A'] by decide +kernel]
    exact Text.lowerForm_lower _
  obtain ⟨hkeyword, -, -⟩ := next_word hselect hstar
  obtain ⟨-, hname, hlowered⟩ := next_word hdotted hstar
  obtain ⟨-, hname', -⟩ := next_word hkelvin hstar
  refine ⟨⟨hselect, hstar, (hkeyword .select).2 (by decide +kernel)⟩,
    ⟨hdotted, hform, hname.2 fun k ↦ ?_, ?_⟩, ⟨hkelvin, hform', hname'.2 fun k ↦ ?_⟩⟩
  · cases k <;> decide +kernel
  · rw [ne_eq, hlowered _ hform]
    decide +kernel
  · cases k <;> decide +kernel

end Token

end Tabular
