/-!
# Results read backwards

A reader that succeeds has succeeded in each of its steps.  These lemmas turn the success
of a composed result into the success of its parts.
-/

namespace EditWaves.Result

universe u

variable {ε α β : Type u}

theorem bind_eq_ok {x : Except ε α} {f : α → Except ε β} {b : β} (h : (x >>= f) = .ok b) :
    ∃ a, x = .ok a ∧ f a = .ok b := by
  cases x with
  | error fault => cases h
  | ok a => exact ⟨a, rfl, h⟩

theorem map_eq_ok {x : Except ε α} {f : α → β} {b : β} (h : x.map f = .ok b) :
    ∃ a, x = .ok a ∧ f a = b := by
  cases x with
  | error fault => cases h
  | ok a => exact ⟨a, rfl, Except.ok.inj h⟩

theorem mapError_eq_ok {δ : Type u} {x : Except ε α} {f : ε → δ} {a : α}
    (h : x.mapError f = .ok a) : x = .ok a := by
  cases x with
  | error fault => cases h
  | ok b => rw [Except.ok.inj h]

/-- A value that may be absent is read if it is there. -/
theorem mapM_eq_ok {o : Option α} {f : α → Except ε β} {r : Option β}
    (h : o.mapM f = .ok r) :
    (o = none ∧ r = none) ∨ ∃ a b, o = some a ∧ f a = .ok b ∧ r = some b := by
  cases o with
  | none =>
    cases h
    exact .inl ⟨rfl, rfl⟩
  | some a =>
    obtain ⟨b, hb, hr⟩ := map_eq_ok h
    exact .inr ⟨a, b, rfl, hb, hr.symm⟩

end EditWaves.Result
