import Mathlib.Data.List.Forall2
import Tabular.Error

/-!
# Results that may be missing

Inversion of sequences of computations that may fail, and of lists of them: what a list of
computations comes to is related to the list one by one. Two computations that differ in their
results but not in whether they fail, nor how, are `Parallel`.

Both monads of the library fail without a state, so inversion is an `iff` for each: a sequence
succeeds if every step does (`bind_eq_ok_iff`), and fails where one step fails and all before it
succeed (`bind_eq_error_iff`). A list of computations is the same step over and over, and is told by
`List.Forall₂` rather than by indices: most proofs go through two lists together, and the relation
says at once that they are equally long.

`Parallel` is for two runs of one program that differ in what the order of rows decides. It goes
through sequences (`Parallel.bind`) and lists (`Parallel.mapM`), so a function is shown to be
parallel to itself by going through its steps.
-/

namespace Tabular

variable {α β : Type}

/-- A sequence succeeds if its first step does, and the second with what the first gave. -/
theorem bind_eq_ok_iff {ε : Type} {x : Except ε α} {f : α → Except ε β} {b : β} :
    x >>= f = .ok b ↔ ∃ a, x = .ok a ∧ f a = .ok b := by
  cases x with
  | error e =>
    constructor
    · intro h
      cases h
    · rintro ⟨a, h, -⟩
      cases h
  | ok a =>
    refine ⟨fun h ↦ ⟨a, rfl, h⟩, ?_⟩
    rintro ⟨a', h, h'⟩
    cases h
    exact h'

/-- A sequence fails in its first step, or in the second after the first has succeeded. -/
theorem bind_eq_error_iff {ε : Type} {x : Except ε α} {f : α → Except ε β} {e : ε} :
    x >>= f = .error e ↔ x = .error e ∨ ∃ a, x = .ok a ∧ f a = .error e := by
  cases x with
  | error e' =>
    constructor
    · intro h
      cases h
      exact .inl rfl
    · rintro (h | ⟨a, h, -⟩) <;> cases h
      rfl
  | ok a =>
    refine ⟨fun h ↦ .inr ⟨a, rfl, h⟩, ?_⟩
    rintro (h | ⟨a', h, h'⟩) <;> cases h
    exact h'

theorem forall₂_optionRel_refl {R : α → α → Prop} (h : ∀ a, R a a) (l : List (Option α)) :
    List.Forall₂ (Option.Rel R) l l := by
  refine List.forall₂_same.2 fun a? _ ↦ ?_
  cases a? with
  | none => exact .none
  | some a => exact .some (h a)

/-- A list of computations that may fail succeeds if each does, with what each gives. -/
theorem mapM_eq_ok_iff {ε : Type} {f : α → Except ε β} {as : List α} {bs : List β} :
    as.mapM f = .ok bs ↔ List.Forall₂ (fun a b ↦ f a = .ok b) as bs := by
  induction as generalizing bs with
  | nil =>
    rw [List.mapM_nil, List.forall₂_nil_left_iff]
    exact ⟨fun h ↦ by cases h; rfl, fun h ↦ by rw [h]; rfl⟩
  | cons a as ih =>
    rw [List.mapM_cons, List.forall₂_cons_left_iff]
    simp only [bind_eq_ok_iff, ih]
    constructor
    · rintro ⟨b, hb, bs', hbs', h⟩
      cases h
      exact ⟨b, bs', hb, hbs', rfl⟩
    · rintro ⟨b, bs', hb, hbs', rfl⟩
      exact ⟨b, hb, bs', hbs', rfl⟩

theorem exists_mem_of_mapM_eq_error {ε : Type} {f : α → Except ε β} {as : List α} {e : ε}
    (h : as.mapM f = .error e) : ∃ a ∈ as, f a = .error e := by
  induction as with
  | nil => cases h
  | cons a as ih =>
    rw [List.mapM_cons] at h
    rcases bind_eq_error_iff.1 h with h | ⟨b, -, h⟩
    · exact ⟨a, by simp, h⟩
    rcases bind_eq_error_iff.1 h with h | ⟨bs, -, h⟩
    · obtain ⟨a', ha', h'⟩ := ih h
      exact ⟨a', List.mem_cons_of_mem a ha', h'⟩
    · cases h

/-- A list of values that may be missing is there if each is. -/
theorem mapM_eq_some_iff {f : α → Option β} {as : List α} {bs : List β} :
    as.mapM f = some bs ↔ List.Forall₂ (fun a b ↦ f a = some b) as bs := by
  induction as generalizing bs with
  | nil =>
    rw [List.mapM_nil, List.forall₂_nil_left_iff]
    exact ⟨fun h ↦ by cases h; rfl, fun h ↦ by rw [h]; rfl⟩
  | cons a as ih =>
    rw [List.mapM_cons, List.forall₂_cons_left_iff]
    simp only [Option.bind_eq_bind, Option.bind_eq_some_iff, ih]
    constructor
    · rintro ⟨b, hb, bs', hbs', h⟩
      cases h
      exact ⟨b, bs', hb, hbs', rfl⟩
    · rintro ⟨b, bs', hb, hbs', rfl⟩
      exact ⟨b, hb, bs', hbs', rfl⟩

/-- Of lists that are related one by one, what is in one is related to something in the other. -/
theorem exists_mem_of_forall₂ {R : α → β → Prop} {as : List α} {bs : List β}
    (h : List.Forall₂ R as bs) {a : α} (ha : a ∈ as) : ∃ b ∈ bs, R a b := by
  induction h with
  | nil => cases ha
  | @cons a' b' as bs hab _ ih =>
    rcases List.mem_cons.1 ha with rfl | ha
    · exact ⟨b', by simp, hab⟩
    · obtain ⟨b, hb, hR⟩ := ih ha
      exact ⟨b, List.mem_cons_of_mem b' hb, hR⟩

/-- If each in a list is related to something, the list is related to a list one by one. -/
theorem exists_forall₂ {R : α → β → Prop} {as : List α} (h : ∀ a ∈ as, ∃ b, R a b) :
    ∃ bs, List.Forall₂ R as bs := by
  induction as with
  | nil => exact ⟨[], .nil⟩
  | cons a as ih =>
    obtain ⟨b, hb⟩ := h a List.mem_cons_self
    obtain ⟨bs, hbs⟩ := ih fun a' ha' ↦ h a' (List.mem_cons_of_mem a ha')
    exact ⟨b :: bs, .cons hb hbs⟩

/-! ### Two computations -/

/-- Both computations fail in the same way, or both succeed and what they give is related. -/
inductive Parallel {ε : Type} (R : α → β → Prop) : Except ε α → Except ε β → Prop
  | ok {a : α} {b : β} (h : R a b) : Parallel R (.ok a) (.ok b)
  | error (e : ε) : Parallel R (.error e) (.error e)

namespace Parallel

variable {ε : Type} {R : α → β → Prop}

/-- Parallel computations are told apart only by what they give. -/
theorem error_or_ok {x : Except ε α} {y : Except ε β} (h : Parallel R x y) :
    (∃ e, x = .error e ∧ y = .error e) ∨ ∃ a b, x = .ok a ∧ y = .ok b ∧ R a b := by
  cases h with
  | ok h => exact .inr ⟨_, _, rfl, rfl, h⟩
  | error e => exact .inl ⟨e, rfl, rfl⟩

/-- A computation is parallel to itself, if what it gives is related to itself. -/
theorem refl {R : α → α → Prop} (hR : ∀ a, R a a) (x : Except ε α) : Parallel R x x := by
  cases x with
  | ok a => exact .ok (hR a)
  | error e => exact .error e

theorem imp {S : α → β → Prop} {x : Except ε α} {y : Except ε β} (h : Parallel R x y)
    (hRS : ∀ a b, R a b → S a b) : Parallel S x y := by
  cases h with
  | ok h => exact .ok (hRS _ _ h)
  | error e => exact .error e

/-- Computations that go on from related results in parallel are parallel. -/
theorem bind {γ δ : Type} {S : γ → δ → Prop} {x : Except ε α} {y : Except ε β}
    {f : α → Except ε γ} {g : β → Except ε δ} (h : Parallel R x y)
    (hnext : ∀ a b, R a b → Parallel S (f a) (g b)) : Parallel S (x >>= f) (y >>= g) := by
  cases h with
  | ok h => exact hnext _ _ h
  | error e => exact .error e

/-- Lists of parallel computations are parallel, and what they give is related one by one. -/
theorem mapM {γ : Type} {f : γ → Except ε α} {g : γ → Except ε β} {cs : List γ}
    (h : ∀ c, Parallel R (f c) (g c)) : Parallel (List.Forall₂ R) (cs.mapM f) (cs.mapM g) := by
  induction cs with
  | nil => exact .ok .nil
  | cons c cs ih =>
    rw [List.mapM_cons, List.mapM_cons]
    exact (h c).bind fun _ _ hhead ↦ ih.bind fun _ _ htail ↦ .ok (.cons hhead htail)

theorem ofExcept {x : Except Error α} {y : Except Error β} (h : Parallel R x y) :
    Parallel R (Failure.ofExcept x) (Failure.ofExcept y) := by
  cases h with
  | ok h => exact .ok h
  | error e => exact .error (Failure.error e)

end Parallel

namespace Failure

/-- To allow for missed values changes nothing about success, and nothing about refusals
(`ofExcept_eq_error_error_iff`). -/
@[simp] theorem ofExcept_eq_ok_iff {x : Except Error α} {a : α} :
    ofExcept x = .ok a ↔ x = .ok a := by
  cases x <;> simp [ofExcept]

@[simp] theorem ofOption_eq_ok_iff {x : Option α} {a : α} : ofOption x = .ok a ↔ x = some a := by
  cases x <;> simp [ofOption]

@[simp] theorem ofExcept_eq_error_error_iff {x : Except Error α} {e : Error} :
    ofExcept x = .error (.error e) ↔ x = .error e := by
  cases x <;> simp [ofExcept]

/-- What is refused is refused with an error, so no value was missed. -/
theorem ofExcept_eq_error_iff {x : Except Error α} {f : Failure} :
    ofExcept x = .error f ↔ ∃ e, x = .error e ∧ f = .error e := by
  cases x with
  | error e => simp [ofExcept, eq_comm]
  | ok a => simp [ofExcept]

end Failure

end Tabular
