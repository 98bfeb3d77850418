/-!
# Entries by key

A short finite map: a list of entries, each under a key, in the order in which the keys came. What
is put under a key takes the place of what was there. The entry just put is found (`get?_put_self`),
every other key finds what it found before (`get?_put_of_ne`), and putting back what is there
already changes nothing at all (`put_eq_self`).

Tables of a database and files of a tree are both kept so. The order of the entries is that of the
keys as they came and can be observed only by listing them; two maps with the same entries in
another order find the same things. A map that was built by `put` from nothing has each key once,
but nothing here asks for that: an entry further back under the same key is never found.
-/

namespace Tabular

/-- Entries under keys. -/
abbrev Keyed (κ α : Type) := List (κ × α)

namespace Keyed

variable {κ α : Type} [DecidableEq κ]

/-- The entry under a key. -/
def get? : Keyed κ α → κ → Option α
  | [], _ => none
  | (k, a) :: rest, key => if k = key then some a else get? rest key

/-- The entries with one put under a key, in the place of any that was there. -/
def put : Keyed κ α → κ → α → Keyed κ α
  | [], key, a => [(key, a)]
  | (k, b) :: rest, key, a => if k = key then (key, a) :: rest else (k, b) :: put rest key a

@[simp] theorem get?_nil (key : κ) : get? ([] : Keyed κ α) key = none := rfl

@[simp] theorem get?_put_self (entries : Keyed κ α) (key : κ) (a : α) :
    get? (put entries key a) key = some a := by
  induction entries with
  | nil => simp [put, get?]
  | cons e rest ih => by_cases h : e.1 = key <;> simp [put, get?, h, ih]

/-- **Other keys are left alone.** -/
theorem get?_put_of_ne (entries : Keyed κ α) {key other : κ} (h : other ≠ key) (a : α) :
    get? (put entries key a) other = get? entries other := by
  induction entries with
  | nil => simp [put, get?, Ne.symm h]
  | cons e rest ih =>
    by_cases he : e.1 = key
    · have hne : e.1 ≠ other := fun h' ↦ h (h' ▸ he)
      simp [put, get?, he, Ne.symm h]
    · simp [put, get?, he, ih]

theorem put_eq_self {entries : Keyed κ α} {key : κ} {a : α} (h : get? entries key = some a) :
    put entries key a = entries := by
  induction entries with
  | nil => simp at h
  | cons e rest ih =>
    by_cases he : e.1 = key
    · simp only [get?, he, if_pos, Option.some.injEq] at h
      simp [put, he, ← h, Prod.ext_iff]
    · simp only [get?, if_neg he] at h
      simp [put, he, ih h]

end Keyed

end Tabular
