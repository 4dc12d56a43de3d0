import SqlMapping.Object.Basic

/-! # Members by their paths

A path leads from an object through the places of its members. Assigning to the member at a path
changes this member and leaves the members apart from it as they are. -/

namespace SqlMapping

/-- The member at a place of an object. -/
def Object.field? (o : Object) (i : Nat) : Option Field :=
  match o.members[i]? with
  | some (.field _ _ f) => some f
  | _ => none

/-- The member that a path leads to from a member. -/
def Field.at? : List Nat → Field → Option Field
  | [], f => some f
  | i :: path, f => f.object?.bind fun o => (o.field? i).bind (at? path)

/-- The member that a path leads to from an object. -/
def Object.at? (path : List Nat) (o : Object) : Option Field :=
  (Field.nested o).at? path

/-- Neither of two paths leads on to the other. -/
def Apart (p q : List Nat) : Prop :=
  ¬ p <+: q ∧ ¬ q <+: p

theorem Apart.symm {p q : List Nat} (h : Apart p q) : Apart q p :=
  ⟨h.2, h.1⟩

theorem apart_cons {i : Nat} {p q : List Nat} : Apart (i :: p) (i :: q) ↔ Apart p q := by
  simp [Apart, List.cons_prefix_cons]

variable {o : Object} {f g : Field} {v : Value} {i j : Nat} {path q : List Nat}
  {a : Attempt Object}

theorem Object.at?_cons : o.at? (i :: path) = (o.field? i).bind (Field.at? path) := rfl

theorem Object.field?_eq_some :
    o.field? i = some f ↔ ∃ name tag, o.members[i]? = some (.field name tag f) := by
  unfold field?
  split <;> simp_all

theorem Field.at?_of_object? (h : f.object? = some o) (hq : q ≠ []) : f.at? q = o.at? q := by
  cases q with
  | nil => exact absurd rfl hq
  | cons i q => rw [Field.at?, h, Object.at?_cons, Option.bind_some]

theorem Field.at?_append : f.at? (path ++ q) = (f.at? path).bind (Field.at? q) := by
  induction path generalizing f with
  | nil => rfl
  | cons i path ih =>
      rw [List.cons_append, Field.at?, Field.at?]
      cases f.object? with
      | none => rfl
      | some o =>
          simp only [Option.bind_some]
          cases o.field? i with
          | none => rfl
          | some g => exact ih

/-- No path leads on from a member without an object. -/
theorem Field.eq_nil_of_at? (h : f.object? = none) (hq : f.at? q = some g) : q = [] := by
  cases q with
  | nil => rfl
  | cons i q => simp [Field.at?, h] at hq

theorem Field.exists_object?_of_at? (h : f.at? q = some g) (hq : q ≠ []) :
    ∃ o, f.object? = some o ∧ o.at? q = some g := by
  cases hobject : f.object? with
  | none => exact absurd (eq_nil_of_at? hobject h) hq
  | some o => exact ⟨o, rfl, at?_of_object? hobject hq ▸ h⟩

theorem Object.eq_of_isPrefix (hp : o.at? path = some f) (hf : f.object? = none)
    (hq : o.at? q = some g) (h : path <+: q) : path = q := by
  obtain ⟨rest, rfl⟩ := h
  rw [Object.at?, Field.at?_append, show Field.at? path (.nested o) = some f from hp] at hq
  rw [Field.eq_nil_of_at? hf hq, List.append_nil]

/-- Members without an object stand apart. -/
theorem Object.apart_of_ne (hp : o.at? path = some f) (hf : f.object? = none)
    (hq : o.at? q = some g) (hg : g.object? = none) (hne : path ≠ q) : Apart path q :=
  ⟨fun h => hne (eq_of_isPrefix hp hf hq h), fun h => hne (eq_of_isPrefix hq hg hp h).symm⟩

/-! ## Assigning at a path -/

theorem Field.updateObject?_of_object? {u : Object → Attempt Object} (f : Field)
    (h : f.object? = some o) :
    ∃ b, f.updateObject? u = some b ∧ b.state.object? = some (u o).state ∧
      b.failure = (u o).failure := by
  match f with
  | .scalar _ => simp [object?] at h
  | .nested _ =>
      obtain rfl := Option.some.inj h
      exact ⟨_, rfl, rfl, rfl⟩
  | .optional k n fresh none => simp [object?] at h
  | .optional k n fresh (some f) =>
      obtain ⟨b, hb, hobject, hfailure⟩ := updateObject?_of_object? f (u := u) h
      exact ⟨b.map fun f => .optional k n fresh (some f), by simp [updateObject?, hb], hobject,
        hfailure⟩

/-- An object with another member at a place. -/
def Object.put (o : Object) (i : Nat) (name tag : String) (f : Field) : Object :=
  { o with members := o.members.set i (.field name tag f) }

variable {name tag : String}

theorem Object.field?_put_self (h : o.field? i = some g) :
    (o.put i name tag f).field? i = some f := by
  obtain ⟨_, _, hmember⟩ := field?_eq_some.mp h
  obtain ⟨hi, -⟩ := List.getElem?_eq_some_iff.mp hmember
  simp [field?, put, hi]

theorem Object.field?_put_ne (h : j ≠ i) : (o.put i name tag f).field? j = o.field? j := by
  simp [field?, put, h.symm]

theorem Object.assignAt?_singleton (h : o.members[i]? = some (.field name tag f)) :
    o.assignAt? v [i] = some ((f.assign v).map (o.put i name tag)) := by
  simp only [assignAt?, h]
  rfl

theorem Object.assignAt?_cons {p : Object} (h : o.members[i]? = some (.field name tag g))
    (hp : g.object? = some p) (hne : path ≠ []) (ha : p.assignAt? v path = some a) :
    o.assignAt? v (i :: path) =
      (g.updateObject? fun _ => a).map (Attempt.map (o.put i name tag)) := by
  simp only [assignAt?, h, hp, Option.bind_some, ha, List.isEmpty_iff, hne, if_false]
  rfl

/-- What assigning at a path does to the member there and to the members apart from it. -/
structure Assigned (v : Value) (path : List Nat) (f : Field) (o : Object) (a : Attempt Object) :
    Prop where
  failure : a.failure = (f.assign v).failure
  at_path : a.state.at? path = some (f.assign v).state
  apart : ∀ q, Apart path q → a.state.at? q = o.at? q

theorem Assigned.singleton (h : o.field? i = some f) :
    Assigned v [i] f o ((f.assign v).map (o.put i name tag)) where
  failure := rfl
  at_path := by
    rw [Object.at?_cons]
    exact congrArg (Option.bind · (Field.at? [])) (Object.field?_put_self h)
  apart q hq := by
    cases q with
    | nil => exact absurd List.nil_prefix hq.2
    | cons j q =>
        have hj : j ≠ i := by
          rintro rfl
          exact hq.1 (by simp [List.cons_prefix_cons])
        rw [Object.at?_cons, Object.at?_cons]
        exact congrArg (Option.bind · _) (Object.field?_put_ne hj)

/-- Assigning within the object of a member is assigning within the object around it. -/
theorem Assigned.cons {p : Object} {b : Attempt Field} (hg : o.field? i = some g)
    (hp : g.object? = some p) (hne : path ≠ []) (h : Assigned v path f p a)
    (hstate : b.state.object? = some a.state) (hfailure : b.failure = a.failure) :
    Assigned v (i :: path) f o (b.map (o.put i name tag)) where
  failure := hfailure.trans h.failure
  at_path := by
    rw [Attempt.map, Object.at?_cons, Object.field?_put_self hg, Option.bind_some,
      Field.at?_of_object? hstate hne, h.at_path]
  apart q hq := by
    cases q with
    | nil => exact absurd List.nil_prefix hq.2
    | cons j q =>
        rw [Attempt.map, Object.at?_cons, Object.at?_cons]
        by_cases hj : j = i
        case pos =>
            subst hj
            have hapart := apart_cons.mp hq
            have hq : q ≠ [] := by
              rintro rfl
              exact hapart.2 List.nil_prefix
            rw [Object.field?_put_self hg, hg, Option.bind_some, Option.bind_some,
              Field.at?_of_object? hstate hq, Field.at?_of_object? hp hq, h.apart q hapart]
        case neg => rw [Object.field?_put_ne hj]

theorem Object.assignAt?_of_at? (h : o.at? path = some f) (hne : path ≠ []) :
    ∃ a, o.assignAt? v path = some a ∧ Assigned v path f o a := by
  induction path generalizing o with
  | nil => exact absurd rfl hne
  | cons i rest ih =>
      obtain ⟨g, hg, hrest⟩ := Option.bind_eq_some_iff.mp (Object.at?_cons ▸ h)
      obtain ⟨name, tag, hmember⟩ := field?_eq_some.mp hg
      by_cases hlast : rest = []
      case pos =>
          subst hlast
          obtain rfl : g = f := Option.some.inj hrest
          exact ⟨_, assignAt?_singleton hmember, .singleton hg⟩
      case neg =>
          obtain ⟨p, hp, hinner⟩ := Field.exists_object?_of_at? hrest hlast
          obtain ⟨a, ha, hassigned⟩ := ih hinner hlast
          obtain ⟨b, hb, hstate, hfailure⟩ :=
            Field.updateObject?_of_object? g (u := fun _ => a) hp
          have hassign : o.assignAt? v (i :: rest) = some (b.map (o.put i name tag)) := by
            rw [assignAt?_cons hmember hp hlast ha, hb, Option.map_some]
          exact ⟨_, hassign, .cons hg hp hlast hassigned hstate hfailure⟩

theorem Object.of_assignAt?_eq_some (h : o.assignAt? v path = some a) :
    path ≠ [] ∧ ∃ f, o.at? path = some f := by
  induction path generalizing o a with
  | nil => cases h
  | cons i rest ih =>
      refine ⟨List.cons_ne_nil i rest, ?_⟩
      rw [assignAt?] at h
      split at h
      case h_2 => cases h
      case h_1 name tag g hmember =>
          rw [Object.at?_cons, field?_eq_some.mpr ⟨name, tag, hmember⟩, Option.bind_some]
          cases rest with
          | nil => exact ⟨g, rfl⟩
          | cons j rest =>
              cases hp : g.object? with
              | none => simp [hp] at h
              | some p =>
                  cases ha : p.assignAt? v (j :: rest) with
                  | none => simp [hp, ha] at h
                  | some a =>
                      rw [Field.at?_of_object? hp (List.cons_ne_nil j rest)]
                      exact (ih ha).2

/-- Assigning at a path leaves the members apart from it as they are. -/
theorem Object.at?_assignAt? (h : o.assignAt? v path = some a) (hq : Apart path q) :
    a.state.at? q = o.at? q := by
  obtain ⟨hne, f, hf⟩ := of_assignAt?_eq_some h
  obtain ⟨b, hb, hassigned⟩ := assignAt?_of_at? (v := v) hf hne
  obtain rfl : a = b := Option.some.inj (h.symm.trans hb)
  exact hassigned.apart q hq

end SqlMapping
