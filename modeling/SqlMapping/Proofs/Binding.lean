import SqlMapping.Binding

/-! # Values of a binding

Each clause is bound apart, and a merge binds the values of another binding a second time. The
second binding passes over nulls that the first one took from lists. -/

namespace SqlMapping

/-- The values that are not null. -/
def Value.present (values : List Value) : List Value :=
  values.filter (!·.isNull)

namespace Value

@[simp] theorem present_nil : present [] = [] := rfl

@[simp] theorem present_append (vs ws : List Value) :
    present (vs ++ ws) = present vs ++ present ws :=
  List.filter_append ..

@[simp] theorem present_present (vs : List Value) : present (present vs) = present vs := by
  simp [present]

theorem isNull_of_mem_present {vs : List Value} {v : Value} (h : v ∈ present vs) :
    v.isNull = false := by
  simpa using (List.mem_filter.mp h).2

theorem present_eq_self {vs : List Value} : present vs = vs ↔ ∀ v ∈ vs, v.isNull = false := by
  simp [present, List.filter_eq_self]

theorem present_eq_nil {vs : List Value} : present vs = [] ↔ ∀ v ∈ vs, v.isNull = true := by
  simp [present, List.filter_eq_nil_iff]

/-- What is bound is for a single placeholder: an item of a list, or the value if it is no null. -/
theorem of_mem_bound {v w : Value} (h : w ∈ v.bound) :
    w.isBindable = true ∧ ((∃ items, v = .list items ∧ w ∈ items) ∨ w = v ∧ v.isNull = false) := by
  cases v with
  | list items =>
      obtain ⟨hw, hbindable⟩ := List.mem_filter.mp h
      exact ⟨hbindable, .inl ⟨items, rfl, hw⟩⟩
  | record entries => cases h
  | null => cases h
  | _ =>
      simp only [bound] at h
      split at h
      · cases h
      · rename_i hnull
        obtain rfl := List.mem_singleton.mp h
        exact ⟨rfl, .inr ⟨rfl, by simpa using hnull⟩⟩

/-- What is bound for a value takes a single placeholder each. -/
theorem isBindable_of_mem_bound {v w : Value} (h : w ∈ v.bound) : w.isBindable = true :=
  (of_mem_bound h).1

/-- A value for a single placeholder is bound as it is, unless it is null. -/
theorem bound_of_isBindable {v : Value} (h : v.isBindable = true) : v.bound = present [v] := by
  cases v with
  | list items => cases h
  | record entries => cases h
  | null => rfl
  | _ =>
      simp only [bound, present, List.filter_cons, List.filter_nil]
      split <;> simp_all

/-- Values for single placeholders lose their nulls when they are bound. -/
theorem flatMap_bound {vs : List Value} (h : ∀ v ∈ vs, v.isBindable = true) :
    vs.flatMap bound = present vs := by
  induction vs with
  | nil => rfl
  | cons v vs ih =>
      rw [List.flatMap_cons, bound_of_isBindable (h v List.mem_cons_self),
        ih fun w hw => h w (List.mem_cons_of_mem v hw), ← present_append, List.singleton_append]

end Value

namespace Binding

variable (b o : Binding) (k l : Bucket)

@[simp] theorem clauseValues_empty : empty.clauseValues k = [] := rfl

theorem values_eq : b.values = Bucket.all.flatMap b.clauseValues := by
  simp [values, flatten, clauseValues, Bucket.all]

@[simp] theorem clauseValues_addAll (vs : List Value) :
    (b.addAll k vs).clauseValues l =
      b.clauseValues l ++ if l = k then vs.flatMap Value.bound else [] := by
  simp only [clauseValues, flatten, addAll, List.flatMap_cons, List.flatMap_nil, List.append_nil]
  split <;> simp

theorem isBindable_of_mem_values {v : Value} (h : v ∈ b.values) : v.isBindable = true := by
  simp only [values, flatten, List.mem_flatMap] at h
  obtain ⟨_, _, _, _, hv⟩ := h
  exact Value.isBindable_of_mem_bound hv

/-- A merge adds to one clause the values of the other binding that are not null. -/
@[simp] theorem clauseValues_merge :
    (b.merge k o).clauseValues l =
      b.clauseValues l ++ if l = k then Value.present o.values else [] := by
  rw [merge, clauseValues_addAll, Value.flatMap_bound fun v => isBindable_of_mem_values o]

theorem deleteValues_eq : b.deleteValues = b.clauseValues .filter := rfl

theorem updateValues_eq (set : List Value) :
    b.updateValues set =
      set ++ [.source, .filter, .having, .order, .union].flatMap b.clauseValues := by
  simp [updateValues, flatten, clauseValues]

end Binding

end SqlMapping
