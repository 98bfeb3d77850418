import Tabular.Proofs.Script.Continued
import Tabular.Proofs.Table.Format
import Tabular.Proofs.Table.Texts

/-!
# Rows byte by byte

Rows are the same if they are shown alike, but they are compared and hashed without being shown: one
byte comes after the other, and a comma's byte before each value but the first (`Row.bytes`). A
hasher is fed with these and with one byte more, which no text holds. So what it is fed with tells
where a row ends, and what follows in it belongs to something else (`Row.same_iff_hashed`).

Fields come back from the joined form as they were, but for those with commas in them, which are
taken apart (`Text.splitFields_joinFields_eq`).

The byte that ends what a hasher is fed with is what makes rows apart in a longer stream. Without it
the bytes of one row could go on into those of the next, and rows that differ would be fed alike in
company though not alone. With it, no row is the beginning of another (`Row.same_of_begins`), which
needs nothing of the bytes but that the last one stands nowhere else.

Sameness of rows is coarser than sameness of values: where a comma stands in a value, the joined
form does not tell it from one between values. That this is the only difference is seen in the
fields of the joined form.
-/

namespace Tabular

open Text (Bytes splitFields joinFields utf8)

namespace Text

/-! ### Bytes -/

/-- **No text holds the byte that ends what is hashed.** -/
theorem terminator_not_mem_utf8 (s : String) : Row.terminator ∉ utf8 s := by
  rw [utf8_eq_flatMap, List.mem_flatMap]
  rintro ⟨c, -, h⟩
  -- all bytes of all encodings are less than 248
  have hvalue : ∀ {v : Nat}, v < 248 → Row.terminator ≠ UInt8.ofNat v := by
    intro v hv heq
    have hnat := congrArg UInt8.toNat heq
    simp only [Row.terminator, UInt8.toNat_ofNat', UInt8.reduceToNat] at hnat
    omega
  unfold String.utf8EncodeChar at h
  simp only at h
  split at h
  · exact hvalue (by omega) (List.mem_singleton.1 h)
  · split at h
    · simp only [List.mem_cons, List.not_mem_nil, or_false] at h
      rcases h with h | h <;> exact hvalue (by omega) h
    · split at h <;> simp only [List.mem_cons, List.not_mem_nil, or_false] at h
      · rcases h with h | h | h <;> exact hvalue (by omega) h
      · rcases h with h | h | h | h <;> exact hvalue (by omega) h

/-- The bytes of joined fields are those of the first, and a comma's before those of each other. -/
theorem utf8_joinFields_cons (f : String) (fields : List String) :
    utf8 (joinFields (f :: fields)) = utf8 f ++ fields.flatMap fun g ↦ Row.comma :: utf8 g := by
  induction fields generalizing f with
  | nil => simp
  | cons g fields ih =>
    have hcomma : utf8 "," = [Row.comma] := by decide +kernel
    rw [joinFields_cons_cons, utf8_append, utf8_append, ih, hcomma, List.flatMap_cons]
    simp

/-! ### Fields -/

/-- Lines with a comma between them are split one after the other. -/
theorem splitFields_append_comma (line rest : String) :
    splitFields (line ++ "," ++ rest) = splitFields line ++ splitFields rest := by
  rw [splitFields, String.toList_append, String.toList_append, List.append_assoc]
  show ((line.toList ++ ',' :: rest.toList).splitOn ',').map _ = _
  rw [List.splitOn_append_cons_self, List.map_append]
  rfl

/-- **What joined fields are split into**: the fields that each of them is split into. No fields are
joined to the empty line, which is one empty field. -/
theorem splitFields_joinFields_eq (fields : List String) :
    splitFields (joinFields fields) = if fields = [] then [""] else fields.flatMap splitFields := by
  cases fields with
  | nil => rfl
  | cons f fields =>
    rw [if_neg (List.cons_ne_nil f fields)]
    induction fields generalizing f with
    | nil => simp
    | cons g fields ih =>
      rw [joinFields_cons_cons, splitFields_append_comma, ih]
      rfl

end Text

/-- Lists with an element at the end that stands nowhere else are no beginnings of each other. -/
theorem eq_of_begins {α : Type} {x : α} {as bs : List α} (hbs : x ∉ bs)
    (h : as ++ [x] <+: bs ++ [x]) : as = bs := by
  rcases List.prefix_concat_iff.1 h with heq | hbegins
  · exact List.append_cancel_right heq
  · exact absurd (hbegins.subset (by simp)) hbs

namespace Row

/-- The bytes that a hasher is fed with. -/
def hashed (r : Row) : Bytes :=
  r.hash (fun fed byte ↦ fed ++ [byte]) []

variable {r s : Row}

/-- **The bytes are those of the joined form**, which is not made for it. -/
theorem bytes_eq (r : Row) : r.bytes = utf8 r.joined := by
  obtain ⟨values⟩ := r
  cases values with
  | nil => rfl
  | cons v values =>
    -- from the second on, a value has a comma before it, whatever its place
    have hrest (values : List String) (k : Nat) :
        ((values.zipIdx (k + 1)).flatMap fun entry ↦
          (if 0 < entry.2 then [comma] else []) ++ utf8 entry.1) =
        values.flatMap fun v ↦ comma :: utf8 v := by
      induction values generalizing k with
      | nil => rfl
      | cons v values ih =>
        rw [List.zipIdx_cons, List.flatMap_cons, ih, List.flatMap_cons]
        rfl
    rw [joined, Text.utf8_joinFields_cons, bytes, List.zipIdx_cons, List.flatMap_cons, hrest]
    rfl

/-- A hasher is fed with the bytes of a row and one byte more. -/
theorem hashed_eq_append (r : Row) : r.hashed = r.bytes ++ [terminator] := by
  rw [hashed, hash]
  congr
  induction r.bytes using List.reverseRecOn with
  | nil => rfl
  | append_singleton front byte ih => rw [List.foldl_append, ih]; rfl

/-- What a hasher comes to depends on the bytes that it is fed with and on nothing else of the row.
-/
theorem hash_eq_foldl {σ : Type} (r : Row) (write : σ → UInt8 → σ) (state : σ) :
    r.hash write state = r.hashed.foldl write state := by
  rw [hashed_eq_append, List.foldl_append]
  rfl

/-- **Rows are the same if their bytes are.** -/
theorem same_iff_bytes : r.Same s ↔ r.bytes = s.bytes := by
  rw [bytes_eq, bytes_eq, Text.utf8_injective.eq_iff]
  rfl

/-- A row of which the beginning is the whole of another is the same as that. -/
theorem same_of_begins (h : r.hashed <+: s.hashed) : r.Same s := by
  rw [hashed_eq_append, hashed_eq_append] at h
  refine same_iff_bytes.2 (eq_of_begins ?_ h)
  rw [bytes_eq]
  exact Text.terminator_not_mem_utf8 _

/-- **Comparing, hashing and showing rows agree.** Rows are compared by their bytes. They are the
same if a hasher is fed with the same, and if they are shown as the same text; a hasher is fed with
the encoding of that text and one byte more, and with what is fed for a row never begins what is fed
for another. The fields of the text are those of the values, or one empty field if there are none;
so rows of one width without commas are the same if all their values are. -/
theorem same_iff_hashed (r s : Row) :
    (r.bytes = s.bytes ↔ r.hashed = s.hashed) ∧ (r.bytes = s.bytes ↔ r.joined = s.joined) ∧
    r.hashed = utf8 r.joined ++ [terminator] ∧
    (∀ (σ : Type) (write : σ → UInt8 → σ) (state : σ),
      r.hash write state = r.hashed.foldl write state) ∧
    (r.bytes ≠ s.bytes → ¬ r.hashed <+: s.hashed ∧ ¬ s.hashed <+: r.hashed) ∧
    splitFields r.joined = (if r.values = [] then [""] else r.values.flatMap splitFields) ∧
    (r.width = s.width → r.Plain → s.Plain → (r.bytes = s.bytes ↔ ∀ k, r.get? k = s.get? k)) := by
  refine ⟨?_, same_iff_bytes.symm, ?_, fun σ write state ↦ r.hash_eq_foldl write state,
    fun hne ↦ ⟨fun h ↦ ?_, fun h ↦ ?_⟩, Text.splitFields_joinFields_eq r.values,
    fun hwidth hr hs ↦ ⟨fun h ↦ ?_, fun h ↦ ?_⟩⟩
  · rw [hashed_eq_append, hashed_eq_append, List.append_left_inj]
  · rw [hashed_eq_append, bytes_eq]
  · exact hne (same_iff_bytes.1 (same_of_begins h))
  · exact hne (same_iff_bytes.1 (same_of_begins h)).symm
  · rw [(same_iff_bytes.2 h).eq_of_width hwidth hr hs]
    exact fun _ ↦ rfl
  · rw [show r = s from congrArg Row.mk (List.ext_getElem? h)]

/-- Values with commas that fall differently, and a text that is the beginning of another. -/
theorem same_iff_hashed_commas :
    (⟨["x,y", "z"]⟩ : Row).hashed = (⟨["x", "y,z"]⟩ : Row).hashed ∧
    splitFields (⟨["x,y", "z"]⟩ : Row).joined = ["x", "y", "z"] ∧
    ¬ (⟨["a"]⟩ : Row).hashed <+: (⟨["a", ""]⟩ : Row).hashed ∧
    ((⟨["a", ""]⟩ : Row).bytes = (⟨["", "a"]⟩ : Row).bytes ↔
      ∀ k, (⟨["a", ""]⟩ : Row).get? k = (⟨["", "a"]⟩ : Row).get? k) := by
  obtain ⟨hhashed, -, -, -, -, hfields, -⟩ := same_iff_hashed ⟨["x,y", "z"]⟩ ⟨["x", "y,z"]⟩
  obtain ⟨-, -, -, -, hbegins, -⟩ := same_iff_hashed ⟨["a"]⟩ ⟨["a", ""]⟩
  obtain ⟨-, -, -, -, -, -, hplain⟩ := same_iff_hashed ⟨["a", ""]⟩ ⟨["", "a"]⟩
  refine ⟨hhashed.1 (by decide +kernel), hfields.trans (by decide +kernel),
    (hbegins (by decide +kernel)).1, hplain rfl ?_ ?_⟩ <;> unfold Row.Plain <;> decide

end Row

end Tabular
