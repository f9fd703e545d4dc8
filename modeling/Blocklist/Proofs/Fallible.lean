import Mathlib.Data.List.Basic

/-! # Steps that may fail

A computation of several steps ends with the first one that fails. If it succeeds, every step has
succeeded, and if it fails after a step that cannot, it failed before.
-/

namespace Blocklist

variable {ε α β : Type} {x : Except ε α}

/-- If two steps succeed together, then each of them does. -/
theorem exists_ok_of_bind {f : α → Except ε β} {b : β} (h : (x >>= f) = .ok b) :
    ∃ a, x = .ok a ∧ f a = .ok b := by
  cases x with
  | error e => cases h
  | ok a => exact ⟨a, rfl, h⟩

/-- Two steps fail if the first one does, or the second one after it. -/
theorem bind_eq_error_iff {f : α → Except ε β} {e : ε} :
    (x >>= f) = .error e ↔ x = .error e ∨ ∃ a, x = .ok a ∧ f a = .error e := by
  cases x with
  | error other =>
    constructor
    · intro h
      exact .inl (congrArg Except.error (Except.error.inj h))
    · rintro (h | ⟨a, ha, -⟩)
      · exact congrArg Except.error (Except.error.inj h)
      · cases ha
  | ok a =>
    constructor
    · intro h
      exact .inr ⟨a, rfl, h⟩
    · rintro (h | ⟨b, hb, h⟩)
      · cases h
      · cases hb
        exact h

@[simp] theorem ok_bind (a : α) (f : α → Except ε β) : (Except.ok a >>= f) = f a := rfl

/-- After a step that succeeds, only what follows matters. -/
theorem bind_congr_ok {f g : α → Except ε β} (h : ∀ a, x = .ok a → f a = g a) :
    (x >>= f) = (x >>= g) := by
  cases x with
  | error e => rfl
  | ok a => exact h a rfl

theorem exists_ok_of_map {f : α → β} {b : β} (h : x.map f = .ok b) : ∃ a, x = .ok a ∧ f a = b := by
  cases x with
  | error e => cases h
  | ok a => exact ⟨a, rfl, Except.ok.inj h⟩

theorem eq_ok_of_toOption {a : α} (h : x.toOption = some a) : x = .ok a := by
  cases x with
  | error e => cases h
  | ok b => rw [Option.some.inj h]

/-- Two computations that succeed together with equal results differ in their errors at most. -/
theorem toOption_eq_of_iff {y : Except ε α} (h : (∃ a, x = .ok a) ↔ ∃ a, y = .ok a)
    (heq : ∀ a b, x = .ok a → y = .ok b → a = b) : x.toOption = y.toOption := by
  cases x with
  | error e =>
    cases y with
    | error e => rfl
    | ok b =>
      obtain ⟨a, ha⟩ := h.mpr ⟨b, rfl⟩
      cases ha
  | ok a =>
    cases y with
    | error e =>
      obtain ⟨b, hb⟩ := h.mp ⟨a, rfl⟩
      cases hb
    | ok b => rw [heq a b rfl rfl]

/-- What is done with a result tells no less than the result if it tells the results apart. -/
theorem eq_of_map_eq {f : α → β} (hf : ∀ a b, f a = f b → a = b) {y : Except ε α}
    (h : x.map f = y.map f) : x = y := by
  cases x with
  | error e =>
    cases y with
    | error other => exact congrArg Except.error (Except.error.inj h)
    | ok b => cases h
  | ok a =>
    cases y with
    | error other => cases h
    | ok b => rw [hf a b (Except.ok.inj h)]

/-- What is done with a result does not fail. -/
theorem eq_error_of_map {f : α → β} {e : ε} (h : x.map f = .error e) : x = .error e := by
  cases x with
  | error other => rw [Except.error.inj h]
  | ok a => cases h

end Blocklist
