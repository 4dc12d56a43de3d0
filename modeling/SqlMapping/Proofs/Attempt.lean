import SqlMapping.Failure

/-! # Results and attempts that succeed -/

namespace SqlMapping

variable {α β : Type}

namespace Result

variable {r : Result α}

theorem bind_eq_ok {f : α → Result β} {b : β} :
    (r >>= f) = .ok b ↔ ∃ a, r = .ok a ∧ f a = .ok b := by
  cases r with
  | error e => simp [bind, Except.bind]
  | ok a => simp [bind, Except.bind]

theorem map_eq_ok {f : α → β} {b : β} : r.map f = .ok b ↔ ∃ a, r = .ok a ∧ f a = b := by
  cases r with
  | error e => simp [Except.map]
  | ok a => simp [Except.map]

theorem toOption_eq_some {a : α} : r.toOption = some a ↔ r = .ok a := by
  cases r <;> simp [Except.toOption]

end Result

namespace Attempt

theorem map_eq_ok {f : α → β} {a : Attempt α} {b : β} :
    a.map f = ⟨b, none⟩ ↔ ∃ s, a = ⟨s, none⟩ ∧ f s = b := by
  obtain ⟨s, failure⟩ := a
  constructor
  · intro h
    obtain ⟨rfl, rfl⟩ := Attempt.mk.inj h
    exact ⟨s, rfl, rfl⟩
  · rintro ⟨_, h, rfl⟩
    obtain ⟨rfl, rfl⟩ := Attempt.mk.inj h
    rfl

theorem eq_of_failure {a : Attempt α} (h : a.failure = none) : a = ⟨a.state, none⟩ := by
  obtain ⟨s, failure⟩ := a
  obtain rfl : failure = none := h
  rfl

theorem result_eq_ok {a : Attempt α} {u : Unit} :
    a.result = .ok u ↔ a = ⟨a.state, none⟩ := by
  obtain ⟨s, failure⟩ := a
  cases failure <;> simp [result]

end Attempt

end SqlMapping
