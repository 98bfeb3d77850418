import Mathlib.Data.List.TakeWhile
import Tabular.Relation
import Tabular.Token.Lexer

/-!
# What texts read as

`Token.next` and `Token.scan` read from left to right. Here is what they read, said without them: a
token has its lexemes (`Token.Lexeme`), a lexeme must not run on into what follows (`Token.Parts`),
and a text reads as tokens if it is made of their lexemes, each parted from the rest, with blanks
anywhere between (`Token.Reads`).

`Token.next_eq_ok_iff` and `Token.ofText_eq_ok_iff` say that this is exactly what is read. Both
directions rest on the classes of characters being apart: no word character is blank, begins a
relation, is a symbol or a quote (`not_isBlank_of_isWordChar`, `next_wordChar`).

That lexemes are read in the longest way is a condition on what follows them (`Token.Parts`): no
word character behind a word, and no equals sign behind `<` or `>`. It is stated for the token and
the rest of the text, so texts can be taken apart from the left without looking ahead further than
one character.

## How it is used

Most of what follows about texts is shown over `Token.Reads` and not over the scanner: cutting
scripts, dropping carriage returns and laying tokens out are inductions on it, with a lexeme and the
blanks before it in each step. Only the two equivalences below know how a lexeme is found.
-/

namespace Tabular

namespace Text.Spans

/-- No span of one list meets a span of the other. -/
def Apart (spans others : Spans) : Prop :=
  ∀ s ∈ spans, ∀ t ∈ others, s.2 < t.1 ∨ t.2 < s.1

instance (spans others : Spans) : Decidable (Apart spans others) :=
  inferInstanceAs (Decidable (∀ s ∈ spans, ∀ t ∈ others, s.2 < t.1 ∨ t.2 < s.1))

end Text.Spans

/-! ### Classes of characters -/

namespace Text

/-- The tables of blanks and of letters and digits have no character in common. -/
theorem apart_blank_alphanumeric : blankSpans.Apart alphanumericSpans := by decide +kernel

/-- No letter, digit or number of any script is blank. -/
theorem not_isAlphanumeric_of_isBlank {c : Char} (h : isBlank c = true) :
    isAlphanumeric c = false := by
  rw [Bool.eq_false_iff, Ne, isAlphanumeric_iff]
  rintro ⟨t, ht, ht₁, ht₂⟩
  obtain ⟨s, hs, hs₁, hs₂⟩ := isBlank_iff.1 h
  have := apart_blank_alphanumeric s hs t ht
  omega

end Text

theorem not_isWordChar_of_isBlank {c : Char} (h : Text.isBlank c = true) :
    isWordChar c = false := by
  have halpha : Text.isAlphanumeric c = false := Text.not_isAlphanumeric_of_isBlank h
  have hne : c ≠ '_' := by
    rintro rfl
    exact absurd h (by decide)
  simp [isWordChar, halpha, hne]

namespace Token

theorem ofSymbol?_wordChar {c : Char} (h : isWordChar c = true) : ofSymbol? c = none := by
  unfold ofSymbol?
  split <;> first | rfl | exact absurd h (by decide)

theorem not_isRelationStart_of_isWordChar {c : Char} (h : isWordChar c = true) :
    isRelationStart c = false := by
  rw [Bool.eq_false_iff]
  intro hstart
  simp only [isRelationStart, Bool.or_eq_true, beq_iff_eq] at hstart
  rcases hstart with ((rfl | rfl) | rfl) | rfl <;> exact absurd h (by decide)

/-! ### Lexemes -/

/-- The texts that a token is written as. -/
inductive Lexeme : Token → List Char → Prop
  | symbol {c : Char} {t : Token} (h : ofSymbol? c = some t) : Lexeme t [c]
  | relation (r : Relation) : Lexeme (.relation r.symbol) r.symbol.toList
  | literal {value : List Char} (h : ∀ c ∈ value, isLiteralChar c = true) :
    Lexeme (.literal (String.ofList value)) ('\'' :: (value ++ ['\'']))
  | word {c : Char} {cs : List Char} (h : ∀ d ∈ c :: cs, isWordChar d = true) :
    Lexeme (ofWord (c :: cs)) (c :: cs)

/-- Whether a text can follow a lexeme of a token without making it longer. -/
def Parts : Token → List Char → Prop
  | keyword _, rest | ident _, rest => ∀ c ∈ rest.head?, isWordChar c = false
  | relation symbol, rest => symbol = "<" ∨ symbol = ">" → rest.head? ≠ some '='
  | _, _ => True

/-- A word, be it a keyword or a name, is parted from what does not go on with it. -/
theorem parts_ofWord_iff {word rest : List Char} :
    Parts (ofWord word) rest ↔ ∀ c ∈ rest.head?, isWordChar c = false := by
  unfold ofWord
  split <;> rfl

/-- Symbols are single characters, so anything may follow one. -/
theorem parts_of_ofSymbol? {c : Char} {t : Token} (h : ofSymbol? c = some t) (rest : List Char) :
    Parts t rest := by
  unfold ofSymbol? at h
  split at h <;> cases h <;> trivial

/-- A text can follow where another can, if it begins like it or with a blank. -/
theorem Parts.of_head? {t : Token} {rest rest' : List Char} (h : Parts t rest)
    (hhead : ∀ c ∈ rest'.head?, c ∈ rest.head? ∨ Text.isBlank c = true) : Parts t rest' := by
  cases t
  case keyword | ident =>
    intro c hc
    rcases hhead c hc with hc | hblank
    · exact h c hc
    · exact not_isWordChar_of_isBlank hblank
  case relation symbol =>
    intro hsymbol heq
    rcases hhead '=' heq with hc | hblank
    · exact h hsymbol hc
    · exact absurd hblank (by decide)
  all_goals trivial

theorem Lexeme.ne_nil {t : Token} {lexeme : List Char} (h : Lexeme t lexeme) : lexeme ≠ [] := by
  cases h with
  | relation r => cases r <;> decide
  | _ => simp

/-- The semicolon is written in one way. -/
theorem Lexeme.eq_of_semicolon {lexeme : List Char} (h : Lexeme .semicolon lexeme) :
    lexeme = [';'] := by
  generalize ht : semicolon = t at h
  cases h with
  | @symbol c _ hc =>
    subst ht
    unfold ofSymbol? at hc
    split at hc <;> first | rfl | cases hc
  | word h =>
    unfold ofWord at ht
    split at ht <;> cases ht
  | _ => cases ht

/-- No lexeme begins with a blank. -/
theorem Lexeme.not_isBlank_head {t : Token} {lexeme : List Char} (h : Lexeme t lexeme) :
    ∀ c ∈ lexeme.head?, Text.isBlank c = false := by
  cases h with
  | @symbol c t h =>
    unfold ofSymbol? at h
    split at h <;> cases h <;> (rintro _ ⟨rfl⟩; decide)
  | relation r =>
    have hall : r.symbol.toList.head?.all (fun c ↦ !Text.isBlank c) = true := by cases r <;> decide
    simpa [Option.all_eq_true] using hall
  | literal h =>
    rintro _ ⟨rfl⟩
    decide
  | @word c cs h =>
    rintro _ ⟨rfl⟩
    rw [Bool.eq_false_iff]
    intro hblank
    have hword := h c (by simp)
    rw [not_isWordChar_of_isBlank hblank] at hword
    exact absurd hword (by simp)

/-- Behind blanks reading begins at the lexeme. -/
theorem Lexeme.dropWhile_isBlank {t : Token} {blanks lexeme : List Char}
    (hblanks : ∀ c ∈ blanks, Text.isBlank c = true) (h : Lexeme t lexeme) (rest : List Char) :
    (blanks ++ (lexeme ++ rest)).dropWhile Text.isBlank = lexeme ++ rest := by
  rw [List.dropWhile_append_of_pos hblanks]
  obtain ⟨c, cs, rfl⟩ := List.exists_cons_of_ne_nil h.ne_nil
  exact List.dropWhile_cons_of_neg (by simp [h.not_isBlank_head c rfl])

/-! ### What reading one lexeme finds -/

/-- A relation is read as one of the six, and the longer one where there are two. -/
theorem scanRelation_eq_ok {c : Char} {rest left : List Char} {t : Token}
    (hstart : isRelationStart c = true) (h : scanRelation c rest = .ok t left) :
    ∃ lexeme, c :: rest = lexeme ++ left ∧ Lexeme t lexeme ∧ Parts t left := by
  unfold scanRelation at h
  simp only [isRelationStart, Bool.or_eq_true, beq_iff_eq] at hstart
  split at h
  · next hc =>
    cases h
    -- an equals sign follows, and `=` itself is never made longer by one
    obtain ⟨more, rfl⟩ : ∃ more, rest = '=' :: more := List.head?_eq_some_iff.1 hc.2
    rcases hstart with ((rfl | rfl) | rfl) | rfl
    · exact absurd rfl hc.1
    · exact ⟨_, rfl, .relation .le, by simp [Parts]⟩
    · exact ⟨_, rfl, .relation .ge, by simp [Parts]⟩
    · exact ⟨_, rfl, .relation .ne, by simp [Parts]⟩
  · next hc =>
    split at h <;> cases h
    next hbang =>
    -- the first character is all there is: an equals sign follows only if it is one itself
    have hrest : c ≠ '=' → rest.head? ≠ some '=' := fun hne hhead ↦ hc ⟨hne, hhead⟩
    rcases hstart with ((rfl | rfl) | rfl) | rfl
    · exact ⟨_, rfl, .relation .eq, by simp [Parts]⟩
    · exact ⟨_, rfl, .relation .lt, fun _ ↦ hrest (by decide)⟩
    · exact ⟨_, rfl, .relation .gt, fun _ ↦ hrest (by decide)⟩
    · exact absurd rfl hbang

/-- A literal is read up to its closing quote. -/
theorem scanLiteral_eq_ok {rest left : List Char} {t : Token} (h : scanLiteral rest = .ok t left) :
    ∃ lexeme, '\'' :: rest = lexeme ++ left ∧ Lexeme t lexeme ∧ Parts t left := by
  unfold scanLiteral at h
  split at h <;> cases h
  next hdrop =>
  refine ⟨_, ?_, .literal fun c hc ↦ (List.mem_takeWhile_imp hc), trivial⟩
  have happend := List.takeWhile_append_dropWhile (p := isLiteralChar) (l := rest)
  rw [hdrop] at happend
  simpa using happend.symm

/-- What is read is a lexeme, and it is the longest: what is left does not make it longer. -/
theorem lexeme_of_next {text left : List Char} {t : Token} (h : next text = .ok t left) :
    ∃ lexeme, text = lexeme ++ left ∧ Lexeme t lexeme ∧ Parts t left := by
  unfold next at h
  split at h
  · cases h
  · next c rest =>
    split at h
    · next t' hsymbol =>
      cases h
      exact ⟨[c], rfl, .symbol hsymbol, parts_of_ofSymbol? hsymbol left⟩
    · split at h
      · next hstart => exact scanRelation_eq_ok hstart h
      · split at h
        · next hquote => exact hquote ▸ scanLiteral_eq_ok h
        · split at h <;> cases h
          next hword =>
          refine ⟨c :: rest.takeWhile isWordChar, ?_, .word ?_, ?_⟩
          · rw [List.cons_append, List.takeWhile_append_dropWhile]
          · intro d hd
            rcases List.mem_cons.1 hd with rfl | hd
            · exact hword
            · exact List.mem_takeWhile_imp hd
          · rw [parts_ofWord_iff]
            intro d hd
            have hstop := List.head?_dropWhile_not isWordChar rest
            rwa [hd] at hstop

theorem takeWhile_wordChar {cs left : List Char} (h : ∀ d ∈ cs, isWordChar d = true)
    (hleft : ∀ d ∈ left.head?, isWordChar d = false) :
    (cs ++ left).takeWhile isWordChar = cs ∧ (cs ++ left).dropWhile isWordChar = left := by
  rw [List.takeWhile_append_of_pos h, List.dropWhile_append_of_pos h]
  cases left with
  | nil => simp
  | cons d more => simp [hleft d rfl]

/-- **Reading one lexeme finds a token exactly if the text begins with a lexeme of it** that what is
left does not make longer. -/
theorem next_eq_ok_iff {text left : List Char} {t : Token} :
    next text = .ok t left ↔ ∃ lexeme, text = lexeme ++ left ∧ Lexeme t lexeme ∧ Parts t left := by
  refine ⟨lexeme_of_next, ?_⟩
  rintro ⟨lexeme, rfl, hlexeme, hparts⟩
  cases hlexeme with
  | symbol h => simp [next, h]
  | relation r =>
    cases r
    -- only these two begin a longer relation
    case lt | gt =>
      have hne : left.head? ≠ some '=' := hparts (by decide)
      simp [Relation.symbol, next, ofSymbol?, isRelationStart, scanRelation, hne]
    all_goals simp [Relation.symbol, next, ofSymbol?, isRelationStart, scanRelation]
  | @literal value h =>
    simp [next, ofSymbol?, isRelationStart, scanLiteral, List.takeWhile_append_of_pos h,
      List.dropWhile_append_of_pos h, isLiteralChar]
  | @word c cs h =>
    have hc : isWordChar c = true := h c (by simp)
    have hcs :=
      takeWhile_wordChar (fun d hd ↦ h d (List.mem_cons_of_mem c hd)) (parts_ofWord_iff.1 hparts)
    have hquote : c ≠ '\'' := by
      rintro rfl
      exact absurd hc (by decide)
    simp [next, ofSymbol?_wordChar hc, not_isRelationStart_of_isWordChar hc, hquote, hc, hcs]

/-! ### What reading a whole text finds -/

/-- Whether a text is made of lexemes of the tokens, each parted from the rest, and of blanks
anywhere between. -/
inductive Reads : List Token → List Char → Prop
  | nil {blanks : List Char} (hblanks : ∀ c ∈ blanks, Text.isBlank c = true) : Reads [] blanks
  | cons {blanks lexeme rest : List Char} {t : Token} {ts : List Token}
    (hblanks : ∀ c ∈ blanks, Text.isBlank c = true) (hlexeme : Lexeme t lexeme)
    (hparts : Parts t rest) (hrest : Reads ts rest) : Reads (t :: ts) (blanks ++ (lexeme ++ rest))

/-- The tokens that are read all have lexemes. -/
theorem Reads.exists_lexeme {ts : List Token} {text : List Char} (h : Reads ts text) {t : Token}
    (ht : t ∈ ts) : ∃ lexeme, Lexeme t lexeme := by
  induction h with
  | nil => cases ht
  | cons _ hlexeme _ _ ih =>
    rcases List.mem_cons.1 ht with rfl | ht
    · exact ⟨_, hlexeme⟩
    · exact ih ht

theorem scan_of_dropWhile_eq_nil {text : List Char} (h : text.dropWhile Text.isBlank = []) :
    scan text = .ok [eof] [] := by
  rw [scan]
  split
  · rfl
  · next h' => rw [h] at h'; cases h'

/-- A lexeme is read, and then what is left of the text. -/
theorem scan_of_next {text front left : List Char} {t : Token}
    (hfront : text.dropWhile Text.isBlank = front) (hnext : next front = .ok t left) :
    scan text =
      match scan left with
      | .ok ts stop => .ok (t :: ts) stop
      | .error e stop => .error e stop := by
  rw [scan]
  split
  · next h =>
    rw [← hfront, h] at hnext
    cases hnext
  · next c rest h =>
    rw [← hfront, h] at hnext
    split
    · next h' => rw [hnext] at h'; cases h'
    · next h' =>
      rw [hnext] at h'
      cases h'
      rfl

theorem scan_of_next_eq_error {text left : List Char} {e : Failure} {c : Char} {rest : List Char}
    (hfront : text.dropWhile Text.isBlank = c :: rest) (hnext : next (c :: rest) = .error e left) :
    scan text = .error e left := by
  rw [scan]
  split
  · next h =>
    rw [hfront] at h
    cases h
  · next c' rest' h =>
    cases hfront.symm.trans h
    split
    · next h' =>
      rw [hnext] at h'
      cases h'
      rfl
    · next h' => cases hnext.symm.trans h'

/-- A text is read from its first character that is not blank on. -/
theorem scan_eq_of_dropWhile {text text' : List Char}
    (h : text.dropWhile Text.isBlank = text'.dropWhile Text.isBlank) : scan text = scan text' := by
  cases hdrop : text.dropWhile Text.isBlank with
  | nil => rw [scan_of_dropWhile_eq_nil hdrop, scan_of_dropWhile_eq_nil (h.symm.trans hdrop)]
  | cons c rest =>
    have hdrop' := h.symm.trans hdrop
    cases hnext : next (c :: rest) with
    | ok t left => rw [scan_of_next hdrop hnext, scan_of_next hdrop' hnext]
    | error e left => rw [scan_of_next_eq_error hdrop hnext, scan_of_next_eq_error hdrop' hnext]

/-- A text that is made of lexemes is read as their tokens. -/
theorem scan_eq_ok_of_reads {ts : List Token} {text : List Char} (h : Reads ts text) :
    scan text = .ok (ts ++ [eof]) [] := by
  induction h with
  | nil hblanks => exact scan_of_dropWhile_eq_nil (List.dropWhile_eq_nil_iff.2 hblanks)
  | @cons blanks lexeme rest t ts hblanks hlexeme hparts hrest ih =>
    have hnext := next_eq_ok_iff.2 ⟨lexeme, rfl, hlexeme, hparts⟩
    rw [scan_of_next (hlexeme.dropWhile_isBlank hblanks rest) hnext, ih]
    rfl

/-- What a text is read as it is made of. -/
theorem reads_of_scan {text left : List Char} {ts : List Token} (h : scan text = .ok ts left) :
    left = [] ∧ ∃ us, ts = us ++ [eof] ∧ Reads us text := by
  have hsplit := (List.takeWhile_append_dropWhile (p := Text.isBlank) (l := text)).symm
  have hblanks : ∀ c ∈ text.takeWhile Text.isBlank, Text.isBlank c = true :=
    fun c hc ↦ List.mem_takeWhile_imp hc
  fun_induction scan text generalizing ts left with
  | case1 text hdrop =>
    cases h
    rw [hdrop, List.append_nil] at hsplit
    exact ⟨rfl, [], rfl, hsplit ▸ .nil hblanks⟩
  | case2 => cases h
  | case3 text c rest hdrop t more hnext ts' stop hscan ih =>
    cases h
    -- what is left behind the lexeme is split into blanks and the rest anew
    obtain ⟨rfl, us, rfl, hreads⟩ := ih hscan (List.takeWhile_append_dropWhile).symm
      fun c hc ↦ List.mem_takeWhile_imp hc
    obtain ⟨lexeme, hfront, hlexeme, hparts⟩ := next_eq_ok_iff.1 hnext
    rw [hdrop, hfront] at hsplit
    exact ⟨rfl, t :: us, rfl, hsplit ▸ .cons hblanks hlexeme hparts hreads⟩
  | case4 => cases h

/-- At the beginning all of the text is left. -/
theorem rest_ofText (s : String) : (Scanner.ofText s).rest = s.toList :=
  List.drop_zero

/-- **A text is read as tokens exactly if it is made of their lexemes.** -/
theorem ofText_eq_ok_iff {s : String} {ts : List Token} :
    ofText s = .ok ts ↔ ∃ us, ts = us ++ [eof] ∧ Reads us s.toList := by
  rw [ofText, Scanner.scan, rest_ofText]
  constructor
  · intro h
    split at h <;> cases h
    next hscan => exact (reads_of_scan hscan).2
  · rintro ⟨us, rfl, hreads⟩
    rw [scan_eq_ok_of_reads hreads]

/-- **Blanks before a text make no difference to what it reads as**, whether it reads as tokens or
is refused. -/
theorem ofText_blanks_append {blanks : List Char} (h : ∀ c ∈ blanks, Text.isBlank c = true)
    (text : String) : ofText (String.ofList blanks ++ text) = ofText text := by
  have hscan : scan (blanks ++ text.toList) = scan text.toList :=
    scan_eq_of_dropWhile (List.dropWhile_append_of_pos h)
  rw [ofText, ofText, Scanner.scan, Scanner.scan, rest_ofText, rest_ofText, String.toList_append,
    String.toList_ofList, hscan]
  split <;> rfl

theorem ofText_of_reads {ts : List Token} {text : List Char} (h : Reads ts text) :
    ofText (String.ofList text) = .ok (ts ++ [eof]) :=
  ofText_eq_ok_iff.2 ⟨ts, rfl, by rwa [String.toList_ofList]⟩

end Token

end Tabular
