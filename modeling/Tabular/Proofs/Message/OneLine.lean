import Tabular.Message
import Tabular.Proofs.Text.Joined

/-!
# Messages are one line

A message shows some texts in quotation marks and some as they are. What is quoted breaks no line,
whatever it is (`Text.oneLine_quote`); so a message is one line exactly if the texts are that it
shows as they are (`Error.oneLine_message_iff`). These are few (`Error.texts`): names and titles,
and what others have said about a fault.

A line feed could come in from three sides: from the words of the message, from a number, or from a
text that is shown. The words are there to be looked at. A number is shown in digits
(`Text.oneLine_toString`), the code point in an escape as well. That leaves the texts, and which of
them a message shows as they are is a function of the error, so that one `iff` covers all messages
and what breaks a line in one of them can be traced to where the text came from.
-/

namespace Tabular

namespace Text

/-- The text holds no line feed. -/
def OneLine (s : String) : Prop :=
  '\n' ∉ s.toList

instance (s : String) : Decidable (OneLine s) :=
  inferInstanceAs (Decidable ('\n' ∉ s.toList))

/-- Two texts make one line if each of them does. -/
@[simp] theorem oneLine_append_iff {s t : String} :
    OneLine (s ++ t) ↔ OneLine s ∧ OneLine t := by
  simp [OneLine]

/-! ### Numbers and quotations -/

theorem digitChar_ne_lf : ∀ d < 16, Nat.digitChar d ≠ '\n' := by decide

/-- No digit of a number is a line feed, to whatever base. -/
theorem lf_not_mem_toDigits {base : Nat} (hbase : 1 < base) (hle : base ≤ 16) (n : Nat) :
    '\n' ∉ Nat.toDigits base n := by
  induction n using Nat.strongRecOn with
  | ind n ih =>
    rw [Nat.toDigits_eq_if hbase]
    split
    · next hlt => simp [(digitChar_ne_lf n (by omega)).symm]
    · next hge =>
      have hless : n / base < n := Nat.div_lt_self (by omega) hbase
      have hlast : n % base < base := Nat.mod_lt n (by omega)
      simp [ih _ hless, (digitChar_ne_lf (n % base) (by omega)).symm]

/-- A number is shown in one line. -/
@[simp] theorem oneLine_toString (n : Nat) : OneLine (toString n) := by
  rw [OneLine, Nat.toString_eq_ofList_toDigits, String.toList_ofList]
  exact lf_not_mem_toDigits (by decide) (by decide) n

/-- A line feed is among what is escaped, and no escape brings one in. -/
theorem lf_not_mem_escape (delimiter c : Char) : '\n' ∉ escape delimiter c := by
  unfold escape
  split
  · decide
  split
  · decide
  split
  · decide
  split
  · decide
  next hc =>
  split
  · simp [Ne.symm hc]
  split
  · simp [lf_not_mem_toDigits]
  · simpa using Ne.symm hc

/-- **A quotation never breaks the line it stands in.** -/
theorem oneLine_quote {delimiter : Char} (h : delimiter ≠ '\n') (cs : List Char) :
    OneLine (quote delimiter cs) := by
  rw [OneLine, quote, String.toList_ofList]
  simp [h.symm, lf_not_mem_escape]

@[simp] theorem oneLine_quoteText (s : String) : OneLine (quoteText s) :=
  oneLine_quote (by decide) s.toList

@[simp] theorem oneLine_quoteChar (c : Char) : OneLine (quoteChar c) :=
  oneLine_quote (by decide) [c]

end Text

open Text (OneLine oneLine_append_iff)

/-- A token is shown in one line, since the text in it is quoted. -/
@[simp] theorem Token.oneLine_shown (t : Token) : OneLine t.shown := by
  cases t with
  | keyword k => cases k <;> simp [shown, Keyword.name, OneLine]
  | ident name | literal value | relation symbol =>
    simp only [shown, oneLine_append_iff, Text.oneLine_quoteText]
    simp [OneLine]
  | _ => simp [shown, OneLine]

/-! ### Texts that are shown as they are -/

/-- The words of others in the message of a fault. -/
def Disk.Fault.texts : Fault → List String
  | other description => [description]
  | _ => []

/-- The words of others in the message of a malformation. All else that it shows is quoted. -/
def Malformation.texts : Malformation → List String
  | other description => [description]
  | _ => []

/-- The texts that the message of a storage fault shows as they are. -/
def StorageFault.texts : StorageFault → List String
  | missing table => [table]
  | reading table fault | writing table fault => table :: fault.texts
  | noHeader => []
  | other description => [description]

/-- The texts that an error's message shows as they are. -/
def Error.texts : Error → List String
  | duplicateColumn title | columnNotFound title => [title]
  | tableNotFound name => [name]
  | storage fault => fault.texts
  | malformed fault => fault.texts
  | noColumns | rowWidth _ _ => []

/-- The words for a fault of the disk are one line each, but for those that came from elsewhere. -/
theorem Disk.Fault.oneLine_message_iff {fault : Fault} :
    OneLine fault.message ↔ ∀ text ∈ fault.texts, OneLine text := by
  cases fault <;> simp [message, texts, OneLine]

/-- The message of a malformation is one line: what it shows of the statement is quoted. -/
theorem Malformation.oneLine_message_iff {fault : Malformation} :
    OneLine fault.message ↔ ∀ text ∈ fault.texts, OneLine text := by
  unfold message
  split <;>
    simp only [texts, oneLine_append_iff, Token.oneLine_shown, Text.oneLine_quoteChar,
      Text.oneLine_quoteText] <;>
    simp [OneLine]

/-- The message of a storage fault shows the name of a table as it is, and the words for a fault. -/
theorem StorageFault.oneLine_message_iff {fault : StorageFault} :
    OneLine fault.message ↔ ∀ text ∈ fault.texts, OneLine text := by
  unfold message
  split <;>
    simp only [texts, oneLine_append_iff, Disk.Fault.oneLine_message_iff] <;>
    simp [OneLine]

/-- **An error's message is one line exactly if the texts are that it shows as they are.** -/
theorem Error.oneLine_message_iff {e : Error} :
    OneLine e.message ↔ ∀ text ∈ e.texts, OneLine text := by
  unfold message
  split <;>
    simp only [texts, oneLine_append_iff, StorageFault.oneLine_message_iff,
      Malformation.oneLine_message_iff, Text.oneLine_toString] <;>
    simp [OneLine]

end Tabular
