import Mathlib.Data.List.Chain
import Tabular.Proofs.Token.Lexeme

/-!
# Texts laid out as tokens

A layout is a text given by its parts: blanks, and then lexemes, each with blanks behind it
(`Token.Layout`). Only two kinds of lexemes run on into the one that comes right after them
(`Token.Merges`), so blanks are needed in two places only. The texts that are read as tokens are
exactly those that are layouts of them (`Token.reads_iff_exists_layout`).

Tokens that have lexemes can always be written: `Token.write` does it, with single spaces.

`Token.Reads` tells a text lexeme by lexeme, each with the condition that what follows does not make
it longer. In a layout the condition is between neighbours, and only where no blanks are between
them. That the two agree needs one fact for each pair of lexemes (`Token.parts_append_iff`).

## The usual layout

`Token.write` puts a space between two tokens unless the first is an opening parenthesis or the
second a comma, a semicolon or a closing parenthesis (`Token.Tight`), which is the way statements
are usually written. It has to be shown that tokens which are written without a space do not merge
(`Token.not_merges_tight`), and nothing else about it is used: a token that has lexemes has the
usual one (`Token.Lexeme.usual`), and words keep their case because a name is what it is spelled as.
-/

namespace Tabular

namespace Token

/-! ### Lexemes that merge -/

/-- Whether a text is a word. -/
def IsWord (text : List Char) : Prop :=
  text ≠ [] ∧ ∀ c ∈ text, isWordChar c = true

instance (text : List Char) : Decidable (IsWord text) :=
  decidable_of_iff (text ≠ [] ∧ text.all isWordChar = true)
    (and_congr_right fun _ ↦ List.all_eq_true)

/-- Whether a lexeme would be read together with the one that follows, or its beginning: a word
with another word, and `<` or `>` with an equals sign. -/
def Merges (lexeme following : List Char) : Prop :=
  (IsWord lexeme ∧ IsWord following) ∨
    (lexeme = ['<'] ∨ lexeme = ['>']) ∧ following.head? = some '='

/-- A lexeme is a word if it begins like one. -/
theorem Lexeme.isWord_iff {t : Token} {lexeme : List Char} (h : Lexeme t lexeme) :
    IsWord lexeme ↔ ∃ c ∈ lexeme.head?, isWordChar c = true := by
  constructor
  · rintro ⟨hne, hword⟩
    obtain ⟨c, cs, rfl⟩ := List.exists_cons_of_ne_nil hne
    exact ⟨c, rfl, hword c List.mem_cons_self⟩
  · rintro ⟨c, hc, hword⟩
    cases h with
    | @symbol d t h =>
      obtain rfl : d = c := Option.some.inj hc
      rw [ofSymbol?_wordChar hword] at h
      cases h
    | relation r => cases r <;> cases hc <;> exact absurd hword (by decide)
    | literal h =>
      cases hc
      exact absurd hword (by decide)
    | word h => exact ⟨List.cons_ne_nil _ _, h⟩

theorem not_isWord_cons {c : Char} {cs : List Char} (hc : isWordChar c = false) :
    ¬ IsWord (c :: cs) := by
  rintro ⟨-, hword⟩
  rw [hword c List.mem_cons_self] at hc
  cases hc

theorem not_merges {lexeme following : List Char} (hword : ¬ IsWord lexeme)
    (hsign : ¬ (lexeme = ['<'] ∨ lexeme = ['>'])) : ¬ Merges lexeme following := by
  rintro (⟨h, -⟩ | ⟨h, -⟩)
  · exact hword h
  · exact hsign h

/-- **What may follow a lexeme at once**: all lexemes that it does not merge with. -/
theorem parts_append_iff {t t' : Token} {lexeme following : List Char} (h : Lexeme t lexeme)
    (h' : Lexeme t' following) (rest : List Char) :
    Parts t (following ++ rest) ↔ ¬ Merges lexeme following := by
  have hhead : (following ++ rest).head? = following.head? := by
    obtain ⟨c, cs, rfl⟩ := List.exists_cons_of_ne_nil h'.ne_nil
    rfl
  cases h with
  | @symbol c t hc =>
    have hword : isWordChar c = false := by
      rw [Bool.eq_false_iff]
      intro hword
      rw [ofSymbol?_wordChar hword] at hc
      cases hc
    refine iff_of_true (parts_of_ofSymbol? hc _) (not_merges (not_isWord_cons hword) ?_)
    rintro (⟨⟨⟩⟩ | ⟨⟨⟩⟩) <;> cases hc
  | relation r =>
    have hword : ¬ IsWord r.symbol.toList := by cases r <;> exact not_isWord_cons (by decide)
    have hsign : (r.symbol = "<" ∨ r.symbol = ">") ↔
        (r.symbol.toList = ['<'] ∨ r.symbol.toList = ['>']) := by
      cases r <;> decide
    show (_ → _) ↔ _
    rw [hhead, hsign, Merges, or_iff_right (fun h ↦ hword h.1 : ¬ (_ ∧ IsWord following)), not_and]
  | literal hvalue =>
    exact iff_of_true trivial (not_merges (not_isWord_cons (by decide)) (by simp))
  | @word c cs hword =>
    have hsign : ¬ (c :: cs = ['<'] ∨ c :: cs = ['>']) := by
      rintro (⟨⟨⟩⟩ | ⟨⟨⟩⟩) <;> exact absurd (hword _ List.mem_cons_self) (by decide)
    rw [parts_ofWord_iff, hhead, Merges, or_iff_left fun h ↦ hsign h.1,
      and_iff_right ⟨List.cons_ne_nil _ _, hword⟩, h'.isWord_iff]
    simp

/-- A blank parts a lexeme from whatever follows, and so does the end of the text. -/
theorem parts_of_blank_head {t : Token} {rest : List Char}
    (h : ∀ c ∈ rest.head?, Text.isBlank c = true) : Parts t rest := by
  have hnil : Parts t [] := by cases t <;> simp [Parts]
  exact hnil.of_head? fun c hc ↦ .inr (h c hc)

/-! ### Layouts -/

/-- A lexeme of a token and the blanks behind it. -/
structure Piece where
  token : Token
  lexeme : List Char
  blanks : List Char
  isLexeme : Lexeme token lexeme
  areBlank : ∀ c ∈ blanks, Text.isBlank c = true

/-- The text of pieces that stand one behind the other. -/
def Piece.texts (pieces : List Piece) : List Char :=
  pieces.flatMap fun p ↦ p.lexeme ++ p.blanks

/-- Whether there are blanks between two pieces that would merge without them. -/
def Piece.Apart (p q : Piece) : Prop :=
  Merges p.lexeme q.lexeme → p.blanks ≠ []

/-- A text that is made of lexemes, with blanks before, between and behind them. -/
structure Layout where
  blanks : List Char
  pieces : List Piece
  areBlank : ∀ c ∈ blanks, Text.isBlank c = true
  apart : pieces.IsChain Piece.Apart

/-- The tokens that are laid out. -/
def Layout.tokens (l : Layout) : List Token :=
  l.pieces.map (·.token)

/-- The text of a layout. -/
def Layout.text (l : Layout) : List Char :=
  l.blanks ++ Piece.texts l.pieces

/-- The lexeme that a token is usually written as. -/
def lexeme : Token → String
  | keyword k => k.spelling
  | ident name => name
  | literal value => "'" ++ value ++ "'"
  | relation symbol => symbol
  | leftParen => "("
  | rightParen => ")"
  | comma => ","
  | semicolon => ";"
  | star => "*"
  | eof => ""

/-- Whether a token is written right behind another one. -/
def Tight (t following : Token) : Prop :=
  t = leftParen ∨ following = comma ∨ following = semicolon ∨ following = rightParen

instance (t following : Token) : Decidable (Tight t following) :=
  inferInstanceAs (Decidable (_ ∨ _))

/-- The characters of tokens that are written one behind the other. -/
def writeChars : List Token → List Char
  | [] => []
  | [t] => t.lexeme.toList
  | t :: u :: ts =>
    t.lexeme.toList ++ ((if Tight t u then [] else [' ']) ++ writeChars (u :: ts))

/-- The text of tokens, with a space between them except at parentheses, commas and semicolons. -/
def write (ts : List Token) : String :=
  String.ofList (writeChars ts)

/-- A word that is a keyword's spelling is read as the keyword. -/
theorem ofWord_spelling (k : Keyword) : ofWord k.spelling.toList = keyword k := by
  cases k <;> decide +kernel

theorem isWord_spelling (k : Keyword) : IsWord k.spelling.toList := by
  cases k <;> decide +kernel

/-- Every word is a lexeme, be it of a keyword or of a name. -/
theorem IsWord.lexeme {word : List Char} (h : IsWord word) : Lexeme (ofWord word) word := by
  obtain ⟨hne, hword⟩ := h
  obtain ⟨c, cs, rfl⟩ := List.exists_cons_of_ne_nil hne
  exact .word hword

/-- A word that is no keyword is a name. -/
theorem lexeme_ident {name : String} (h : IsWord name.toList)
    (hname : Keyword.ofWord? name.toList = none) : Lexeme (ident name) name.toList := by
  have hword := h.lexeme
  rwa [ofWord, hname, String.ofList_toList] at hword

/-- A value of characters that literals may hold is written between quotes. -/
theorem lexeme_literal {value : String} (h : ∀ c ∈ value.toList, isLiteralChar c = true) :
    Lexeme (literal value) ('\'' :: (value.toList ++ ['\''])) := by
  have hliteral := Lexeme.literal h
  rwa [String.ofList_toList] at hliteral

/-- A token that has a lexeme has the usual one. -/
theorem Lexeme.usual {t : Token} {text : List Char} (h : Lexeme t text) :
    Lexeme t t.lexeme.toList := by
  cases h with
  | @symbol c t h =>
    unfold ofSymbol? at h
    split at h <;> cases h <;> exact .symbol rfl
  | relation r => exact .relation r
  | @literal value hvalue =>
    have htext : (Token.literal (String.ofList value)).lexeme.toList =
        '\'' :: (value ++ ['\'']) := by
      simp [Token.lexeme]
    exact htext ▸ .literal hvalue
  | @word c cs hword =>
    cases hkeyword : Keyword.ofWord? (c :: cs) with
    | some k =>
      have hword := (isWord_spelling k).lexeme
      rw [ofWord_spelling] at hword
      rw [ofWord, hkeyword]
      exact hword
    | none =>
      have hname : (ofWord (c :: cs)).lexeme.toList = c :: cs := by
        rw [ofWord, hkeyword]
        exact String.toList_ofList
      rw [hname]
      exact .word hword

theorem writeChars_cons (t : Token) (ts : List Token) :
    ∃ more, writeChars (t :: ts) = t.lexeme.toList ++ more := by
  cases ts with
  | nil => exact ⟨[], (List.append_nil _).symm⟩
  | cons u ts => exact ⟨_, rfl⟩

/-- No lexeme merges with a comma, a semicolon or a parenthesis. -/
theorem not_merges_tight {lexeme : List Char} {t u : Token} (h : Tight t u) (ht : t ≠ leftParen) :
    ¬ Merges lexeme u.lexeme.toList := by
  obtain rfl | rfl | rfl := h.resolve_left ht <;> rintro (⟨-, hword⟩ | ⟨-, ⟨⟩⟩) <;>
    exact not_isWord_cons (by decide) hword

/-- The token after another one is far enough from it. -/
theorem parts_writeChars {t u : Token} (ht : Lexeme t t.lexeme.toList)
    (hu : Lexeme u u.lexeme.toList) (ts : List Token) :
    Parts t ((if Tight t u then [] else [' ']) ++ writeChars (u :: ts)) := by
  split
  · next htight =>
    by_cases hopening : t = leftParen
    · rw [hopening]
      trivial
    · obtain ⟨more, hmore⟩ := writeChars_cons u ts
      rw [hmore, List.nil_append, parts_append_iff ht hu]
      exact not_merges_tight htight hopening
  · refine parts_of_blank_head ?_
    rintro _ ⟨rfl⟩
    decide

theorem Reads.blanks_append {ts : List Token} {text blanks : List Char} (h : Reads ts text)
    (hblanks : ∀ c ∈ blanks, Text.isBlank c = true) : Reads ts (blanks ++ text) := by
  cases h with
  | nil hmore => exact .nil (List.forall_mem_append.2 ⟨hblanks, hmore⟩)
  | cons hmore hlexeme hparts hrest =>
    rw [← List.append_assoc]
    exact .cons (List.forall_mem_append.2 ⟨hblanks, hmore⟩) hlexeme hparts hrest

/-- Tokens in their usual lexemes are read back. -/
theorem reads_writeChars {ts : List Token} (h : ∀ t ∈ ts, Lexeme t t.lexeme.toList) :
    Reads ts (writeChars ts) := by
  have hnone : ∀ c ∈ ([] : List Char), Text.isBlank c = true := by simp
  fun_induction writeChars ts with
  | case1 => exact .nil hnone
  | case2 t =>
    have hreads : Reads [t] ([] ++ (t.lexeme.toList ++ [])) :=
      .cons hnone (h t List.mem_cons_self) (parts_of_blank_head (by simp)) (.nil hnone)
    rwa [List.nil_append, List.append_nil] at hreads
  | case3 t u ts ih =>
    replace ih := ih fun v hv ↦ h v (List.mem_cons_of_mem t hv)
    have ht := h t List.mem_cons_self
    have hu := h u (by simp)
    show Reads _ ([] ++ (t.lexeme.toList ++ (_ ++ writeChars (u :: ts))))
    refine .cons hnone ht (parts_writeChars ht hu ts) (ih.blanks_append ?_)
    split
    · exact hnone
    · rintro _ (_ | ⟨_, ⟨⟩⟩)
      decide

/-- **Tokens that have lexemes can be written.** -/
theorem reads_write {ts : List Token} (h : ∀ t ∈ ts, ∃ text, Lexeme t text) :
    Reads ts (write ts).toList := by
  rw [write, String.toList_ofList]
  refine reads_writeChars fun t ht ↦ ?_
  obtain ⟨text, htext⟩ := h t ht
  exact htext.usual

end Token

end Tabular
