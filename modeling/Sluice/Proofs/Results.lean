/-!
# Results of parts

What a composed result says about the parts that it is made of, and what is left of it when the
reason of a failure is forgotten.
-/

namespace Sluice

variable {ε ε' α β : Type}

theorem map_eq_ok {f : α → β} {m : Except ε α} {b : β} (h : m.map f = .ok b) :
    ∃ a, m = .ok a ∧ f a = b := by
  cases m with
  | error e => cases h
  | ok a =>
      cases h
      exact ⟨a, rfl, rfl⟩

theorem map_eq_error {f : α → β} {m : Except ε α} {e : ε} (h : m.map f = .error e) :
    m = .error e := by
  cases m with
  | error e' =>
      cases h
      rfl
  | ok a => cases h

theorem bind_eq_ok {m : Except ε α} {f : α → Except ε β} {b : β} (h : (m >>= f) = .ok b) :
    ∃ a, m = .ok a ∧ f a = .ok b := by
  cases m with
  | error e => cases h
  | ok a => exact ⟨a, rfl, h⟩

theorem mapError_eq_ok {f : ε → ε'} {m : Except ε α} {a : α} (h : m.mapError f = .ok a) :
    m = .ok a := by
  cases m with
  | error e => cases h
  | ok b =>
      cases h
      rfl

theorem eq_ok_of_toOption {m : Except ε α} {a : α} (h : m.toOption = some a) : m = .ok a := by
  cases m with
  | error e => cases h
  | ok b =>
      cases h
      rfl

theorem toOption_map (f : α → β) (m : Except ε α) : (m.map f).toOption = m.toOption.map f := by
  cases m <;> rfl

theorem toOption_bind (f : α → Except ε β) (m : Except ε α) :
    (m >>= f).toOption = m.toOption.bind fun a => (f a).toOption := by
  cases m <;> rfl

end Sluice
