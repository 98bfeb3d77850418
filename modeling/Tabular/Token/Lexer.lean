import Tabular.Error
import Tabular.Text.Alphanumeric
import Tabular.Text.Span

/-!
# Reading tokens from text

`Token.next` reads the lexeme at the front of a text and `Token.scan` reads them all, skipping
blanks. Both say what is left of the text, after a fault too, so that a `Scanner` can go on where it
stopped: a character that begins no lexeme is left where it is, a faulty literal is left at the
character that made it faulty.

The longest lexeme is taken. A word ends at the first character that no word holds, `<=` is one
relation and never `<` before `=`, and a literal ends at its closing quote or not at all.

A scan ends because every lexeme takes a character (`Token.length_lt_of_next`). It stops at the
first fault, and gives no token then, not even those before the fault; a `Scanner` keeps its
position all the same, so that the next call goes on from there.
-/

namespace Tabular

/-- The characters that words are made of. -/
def isWordChar (c : Char) : Bool :=
  Text.isAlphanumeric c || c == '_'

/-- The characters that a literal may hold. Literals stay on their line, and a comma would be taken
for the end of a field in a stored table. -/
def isLiteralChar (c : Char) : Bool :=
  c != '\'' && c != ',' && c != '\n' && c != '\r'

/-- The characters that relations begin with. -/
def isRelationStart (c : Char) : Bool :=
  c == '=' || c == '<' || c == '>' || c == '!'

/-- The outcome of reading a part of a text, with what is left of the text. -/
abbrev Scan (α : Type) := EStateM.Result Failure (List Char) α

namespace Token

/-- The token that is a single character. -/
def ofSymbol? : Char → Option Token
  | '(' => some leftParen
  | ')' => some rightParen
  | ',' => some comma
  | ';' => some semicolon
  | '*' => some star
  | _ => none

/-- The token that a word is: a keyword in letters of either case, or else a name. -/
def ofWord (word : List Char) : Token :=
  match Keyword.ofWord? word with
  | some k => keyword k
  | none => ident (String.ofList word)

/-- Reads a relation whose first character is `c`. -/
def scanRelation (c : Char) (rest : List Char) : Scan Token :=
  if c ≠ '=' ∧ rest.head? = some '=' then .ok (relation (String.ofList [c, '='])) rest.tail
  else if c = '!' then .error (.malformed .loneBang) (c :: rest)
  else .ok (relation (String.singleton c)) rest

/-- Reads what follows the opening quote of a literal. -/
def scanLiteral (rest : List Char) : Scan Token :=
  match rest.dropWhile isLiteralChar with
  | '\'' :: more => .ok (literal (String.ofList (rest.takeWhile isLiteralChar))) more
  | ',' :: more => .error (.malformed .commaInLiteral) (',' :: more)
  | stop => .error (.malformed .unterminatedLiteral) stop

/-- Reads the lexeme at the front of a text that begins with no blank. -/
def next : List Char → Scan Token
  | [] => .error .outOfRange []
  | c :: rest =>
    match ofSymbol? c with
    | some t => .ok t rest
    | none =>
      if isRelationStart c then scanRelation c rest
      else if c = '\'' then scanLiteral rest
      else if isWordChar c then
        .ok (ofWord (c :: rest.takeWhile isWordChar)) (rest.dropWhile isWordChar)
      else .error (.malformed (.unsupported c)) (c :: rest)

theorem length_le_of_scanRelation {c : Char} {rest left : List Char} {t : Token}
    (h : scanRelation c rest = .ok t left) : left.length ≤ rest.length := by
  unfold scanRelation at h
  split at h
  · cases h; simp
  · split at h <;> cases h
    exact Nat.le_refl _

theorem length_le_of_scanLiteral {rest left : List Char} {t : Token}
    (h : scanLiteral rest = .ok t left) : left.length ≤ rest.length := by
  unfold scanLiteral at h
  have hle := (List.dropWhile_suffix isLiteralChar (l := rest)).length_le
  split at h <;> cases h
  next hdrop => rw [hdrop, List.length_cons] at hle; omega

/-- **Reading a lexeme makes progress**, which is why a scan ends. -/
theorem length_lt_of_next {text left : List Char} {t : Token} (h : next text = .ok t left) :
    left.length < text.length := by
  unfold next at h
  split at h
  · cases h
  · next c rest =>
    rw [List.length_cons, Nat.lt_succ_iff]
    split at h
    · cases h; exact Nat.le_refl _
    · split at h
      · exact length_le_of_scanRelation h
      · split at h
        · exact length_le_of_scanLiteral h
        · split at h <;> cases h
          exact (List.dropWhile_suffix isWordChar).length_le

/-- Reads a whole text, and ends the list of its tokens with `eof`. -/
def scan (text : List Char) : Scan (List Token) :=
  match _ : text.dropWhile Text.isBlank with
  | [] => .ok [eof] []
  | c :: rest =>
    match _ : next (c :: rest) with
    | .error e left => .error e left
    | .ok t left =>
      match scan left with
      | .ok ts stop => .ok (t :: ts) stop
      | .error e stop => .error e stop
termination_by text.length
decreasing_by
  have hle := (List.dropWhile_suffix Text.isBlank (l := text)).length_le
  have hlt := length_lt_of_next ‹next _ = _›
  rw [‹text.dropWhile Text.isBlank = _›] at hle
  omega

end Token

/-! ### Resuming a scan -/

/-- A text and how far it has been read. -/
structure Scanner where
  text : List Char
  position : Nat

namespace Scanner

/-- A scanner at the beginning of a text. -/
def ofText (s : String) : Scanner :=
  ⟨s.toList, 0⟩

/-- What has not been read yet. -/
def rest (s : Scanner) : List Char :=
  s.text.drop s.position

/-- The same text, read up to the given remainder. -/
def leave (s : Scanner) (left : List Char) : Scanner :=
  { s with position := s.text.length - left.length }

/-- Reads the tokens from the position on, up to the end or the first fault, and stays there. -/
def scan (s : Scanner) : Except Failure (List Token) × Scanner :=
  match Token.scan s.rest with
  | .ok ts left => (.ok ts, s.leave left)
  | .error e left => (.error e, s.leave left)

end Scanner

/-- The tokens of a text. -/
def Token.ofText (s : String) : Except Failure (List Token) :=
  (Scanner.ofText s).scan.1

end Tabular
