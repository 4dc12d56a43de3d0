import SqlMapping.Proofs.Object.Place

/-! # Filling an object

Filling an object puts a fresh content into its absent optional members. Its other members stay as
they are, also when the filling fails on the way. -/

namespace SqlMapping

/-- Whether a member is stored in one column, whatever its content becomes. -/
def Field.isLeaf : Field → Bool
  | scalar _ => true
  | nested _ => false
  | optional _ _ none none => true
  | optional _ _ (some f) none => f.isLeaf
  | optional _ _ none (some f) => f.isLeaf
  | optional _ _ (some g) (some f) => g.isLeaf && f.isLeaf

variable {o p : Object} {f g : Field} {i : Nat} {path : List Nat} {member name tag : String}

theorem Field.object?_eq_none_of_isLeaf (f : Field) (h : f.isLeaf) : f.object? = none := by
  match f with
  | .scalar _ => rfl
  | .nested _ => cases h
  | .optional _ _ _ none => rfl
  | .optional _ _ none (some f) => exact object?_eq_none_of_isLeaf f h
  | .optional _ _ (some _) (some f) =>
      exact object?_eq_none_of_isLeaf f (Bool.and_eq_true_iff.mp h).2

theorem Field.isLeaf_allocate (f : Field) (h : f.isLeaf) : f.allocate.1.isLeaf := by
  match f with
  | .scalar _ => rfl
  | .nested _ => cases h
  | .optional _ _ none none => rfl
  | .optional _ _ (some _) none => exact Bool.and_eq_true_iff.mpr ⟨h, h⟩
  | .optional _ _ none (some _) => exact h
  | .optional _ _ (some _) (some _) => exact h

theorem Field.fillObject_of_isLeaf (f : Field) (h : f.isLeaf) : f.fillObject = ⟨f, none⟩ := by
  match f with
  | .scalar _ => rfl
  | .nested _ => cases h
  | .optional _ _ _ none => rfl
  | .optional _ _ none (some f) => simp [fillObject, fillObject_of_isLeaf f h, Attempt.map]
  | .optional _ _ (some _) (some f) =>
      simp [fillObject, fillObject_of_isLeaf f (Bool.and_eq_true_iff.mp h).2, Attempt.map]

theorem Field.fill_of_isLeaf (f : Field) (h : f.isLeaf) : (f.fill member).state = f.allocate.1 := by
  match f with
  | .scalar _ => rfl
  | .nested _ => cases h
  | .optional _ _ none none => rfl
  | .optional _ _ (some f) none => simp [fill, allocate, fillObject_of_isLeaf f h, Attempt.map]
  | .optional _ _ none (some f) => simp [fill, allocate, fillObject_of_isLeaf f h, Attempt.map]
  | .optional _ _ (some _) (some f) =>
      simp [fill, allocate, fillObject_of_isLeaf f (Bool.and_eq_true_iff.mp h).2, Attempt.map]

theorem Field.object?_fillObject (f : Field) (h : f.object? = some p) :
    f.fillObject.state.object? = some p.allocate.state := by
  match f with
  | .scalar _ => cases h
  | .nested _ =>
      obtain rfl := Option.some.inj h
      rfl
  | .optional _ _ _ none => cases h
  | .optional _ _ _ (some f) => exact object?_fillObject f h

theorem Field.object?_fill (f : Field) (h : f.object? = some p) :
    (f.fill member).state.object? = some p.allocate.state := by
  match f with
  | .scalar _ => cases h
  | .nested _ =>
      obtain rfl := Option.some.inj h
      rfl
  | .optional _ _ _ none => cases h
  | .optional _ _ _ (some f) =>
      rw [fill]
      exact object?_fillObject f h

theorem Member.fill_field (name tag : String) (f : Field) :
    (Member.field name tag f).fill.state = .field name tag f ∨
    (Member.field name tag f).fill.state = .field name tag (f.fill name).state := by
  rw [Member.fill]
  split
  · exact .inl rfl
  split
  · exact .inl rfl
  · exact .inr rfl

theorem getElem?_allocateAll {ms : List Member} (h : ms[i]? = some (.field name tag f)) :
    (allocateAll ms).state[i]? = some (.field name tag f) ∨
      (allocateAll ms).state[i]? = some (.field name tag (f.fill name).state) := by
  induction ms generalizing i with
  | nil => cases h
  | cons m ms ih =>
      rw [allocateAll]
      cases i with
      | zero =>
          obtain rfl := Option.some.inj h
          have hfill := Member.fill_field name tag f
          split
          · rename_i heq
            simpa [heq] using hfill
          · rename_i heq
            simpa [heq, Attempt.map] using hfill
      | succ i =>
          split
          · exact .inl h
          · exact ih h

theorem Object.field?_allocate (h : o.field? i = some f) :
    o.allocate.state.field? i = some f ∨
      ∃ name, o.allocate.state.field? i = some (f.fill name).state := by
  obtain ⟨name, tag, hmember⟩ := field?_eq_some.mp h
  have hmembers : o.allocate.state.members = (allocateAll o.members).state := by
    cases o
    rfl
  rcases getElem?_allocateAll hmember with hsame | hfilled
  · exact .inl (field?_eq_some.mpr ⟨name, tag, hmembers ▸ hsame⟩)
  · exact .inr ⟨name, field?_eq_some.mpr ⟨name, tag, hmembers ▸ hfilled⟩⟩

/-- A leaf of a filled object is as it was or, if it was absent, holds a fresh content. -/
theorem Object.at?_allocate (h : o.at? path = some f) (hleaf : f.isLeaf) :
    o.allocate.state.at? path = some f ∨ o.allocate.state.at? path = some f.allocate.1 := by
  induction path generalizing o with
  | nil =>
      obtain rfl := Option.some.inj h
      cases hleaf
  | cons i rest ih =>
      obtain ⟨g, hg, hrest⟩ := Option.bind_eq_some_iff.mp (Object.at?_cons ▸ h)
      rw [Object.at?_cons]
      rcases field?_allocate hg with hsame | ⟨name, hfilled⟩
      case inl => exact .inl (by rw [hsame, Option.bind_some, hrest])
      case inr =>
          rw [hfilled, Option.bind_some]
          by_cases hlast : rest = []
          case pos =>
              subst hlast
              obtain rfl : g = f := Option.some.inj hrest
              exact .inr (congrArg some (g.fill_of_isLeaf hleaf))
          case neg =>
              obtain ⟨p, hp, hinner⟩ := Field.exists_object?_of_at? hrest hlast
              rw [Field.at?_of_object? (g.object?_fill hp) hlast]
              exact ih hinner

end SqlMapping
