import SqlMapping.Proofs.Object.Place

/-! # Members replaced by their paths

An object in which the members at some paths are replaced is the object itself everywhere else.
Assigning at a path replaces the one member there. -/

namespace SqlMapping

mutual
/-- An object with the members at some paths replaced, together with all that is within them. -/
def Object.replacing (r : List Nat → Option Field) : Object → Object
  | ⟨label, typeName, table, primaryKey, members⟩ =>
    ⟨label, typeName, table, primaryKey, replacingAll r 0 members⟩
/-- Members, the first of which has the given place. -/
def replacingAll (r : List Nat → Option Field) (place : Nat) : List Member → List Member
  | [] => []
  | m :: ms => m.replacing (fun path => r (place :: path)) :: replacingAll r (place + 1) ms
def Member.replacing (r : List Nat → Option Field) : Member → Member
  | .unsupported name tag k => .unsupported name tag k
  | .field name tag f => .field name tag ((r []).getD (f.replacing r))
def Field.replacing (r : List Nat → Option Field) : Field → Field
  | .nested o => .nested (o.replacing r)
  | .optional k n fresh (some f) => .optional k n fresh (some (f.replacing r))
  | f => f
end

/-- A member for one path. -/
def Field.onlyAt (path : List Nat) (f : Field) : List Nat → Option Field :=
  fun q => if q = path then some f else none

variable {o : Object} {f g : Field} {v : Value} {i : Nat} {path : List Nat}
  {r s : List Nat → Option Field}

@[simp] theorem Field.onlyAt_self : f.onlyAt path path = some f := if_pos rfl

theorem Field.onlyAt_of_ne {q : List Nat} (h : q ≠ path) : f.onlyAt path q = none := if_neg h

/-! ## Nothing to replace -/

mutual
theorem Object.replacing_eq_self (o : Object) {r : List Nat → Option Field}
    (h : ∀ i path, r (i :: path) = none) : o.replacing r = o := by
  obtain ⟨_, _, _, _, members⟩ := o
  rw [Object.replacing, replacingAll_eq_self members 0 h]
termination_by structural o
theorem replacingAll_eq_self (ms : List Member) (place : Nat) {r : List Nat → Option Field}
    (h : ∀ i path, r (i :: path) = none) : replacingAll r place ms = ms := by
  match ms with
  | [] => rfl
  | m :: ms =>
      rw [replacingAll, m.replacing_eq_self (h place), replacingAll_eq_self ms (place + 1) h]
termination_by structural ms
theorem Member.replacing_eq_self (m : Member) {r : List Nat → Option Field}
    (h : ∀ path, r path = none) : m.replacing r = m := by
  match m with
  | .unsupported .. => rfl
  | .field name tag f =>
      rw [Member.replacing, h, f.replacing_eq_self fun i path => h (i :: path), Option.getD_none]
termination_by structural m
theorem Field.replacing_eq_self (f : Field) {r : List Nat → Option Field}
    (h : ∀ i path, r (i :: path) = none) : f.replacing r = f := by
  match f with
  | .nested o => rw [Field.replacing, o.replacing_eq_self h]
  | .optional _ _ _ (some f) => rw [Field.replacing, f.replacing_eq_self h]
  | .optional _ _ _ none => rfl
  | .scalar _ => rfl
termination_by structural f
end

/-! ## Replacing again -/

/-- No path of the second replacement leads to or into a member of the first. -/
def Beyond (r s : List Nat → Option Field) : Prop :=
  ∀ p q, (r p).isSome → (s q).isSome → ¬ p <+: q

theorem Beyond.cons (h : Beyond r s) (i : Nat) :
    Beyond (fun path => r (i :: path)) (fun path => s (i :: path)) := by
  intro p q hp hq hprefix
  exact h (i :: p) (i :: q) hp hq (List.cons_prefix_cons.mpr ⟨rfl, hprefix⟩)

mutual
theorem Object.replacing_replacing (o : Object) {r s : List Nat → Option Field} (h : Beyond r s) :
    (o.replacing r).replacing s = o.replacing fun path => (r path).or (s path) := by
  obtain ⟨_, _, _, _, members⟩ := o
  rw [Object.replacing, Object.replacing, Object.replacing, replacingAll_replacingAll members 0 h]
termination_by structural o
theorem replacingAll_replacingAll (ms : List Member) (place : Nat) {r s : List Nat → Option Field}
    (h : Beyond r s) :
    replacingAll s place (replacingAll r place ms) =
      replacingAll (fun path => (r path).or (s path)) place ms := by
  match ms with
  | [] => rfl
  | m :: ms =>
      rw [replacingAll, replacingAll, replacingAll, m.replacing_replacing (h.cons place),
        replacingAll_replacingAll ms (place + 1) h]
termination_by structural ms
theorem Member.replacing_replacing (m : Member) {r s : List Nat → Option Field} (h : Beyond r s) :
    (m.replacing r).replacing s = m.replacing fun path => (r path).or (s path) := by
  match m with
  | .unsupported .. => rfl
  | .field name tag f =>
      rw [Member.replacing, Member.replacing, Member.replacing]
      cases hr : r [] with
      | none => rw [Option.getD_none, f.replacing_replacing h, Option.none_or]
      | some g =>
          have hs : ∀ q, s q = none := by
            intro q
            cases hq : s q with
            | none => rfl
            | some k => exact absurd List.nil_prefix (h [] q (by simp [hr]) (by simp [hq]))
          rw [hs, Option.getD_none, Option.getD_some, Option.some_or, Option.getD_some,
            g.replacing_eq_self fun i path => hs (i :: path)]
termination_by structural m
theorem Field.replacing_replacing (f : Field) {r s : List Nat → Option Field} (h : Beyond r s) :
    (f.replacing r).replacing s = f.replacing fun path => (r path).or (s path) := by
  match f with
  | .nested o => rw [Field.replacing, Field.replacing, Field.replacing, o.replacing_replacing h]
  | .optional _ _ _ (some f) =>
      rw [Field.replacing, Field.replacing, Field.replacing, f.replacing_replacing h]
  | .optional _ _ _ none => rfl
  | .scalar _ => rfl
termination_by structural f
end

/-! ## Assigning -/

theorem getElem?_replacingAll (ms : List Member) (place : Nat) :
    (replacingAll r place ms)[i]? =
      ms[i]?.map (Member.replacing fun path => r ((place + i) :: path)) := by
  induction ms generalizing place i with
  | nil => rfl
  | cons m ms ih =>
      cases i with
      | zero => rfl
      | succ i =>
          rw [replacingAll, List.getElem?_cons_succ, List.getElem?_cons_succ, ih]
          simp only [Nat.add_right_comm, Nat.add_assoc]

/-- Another member at a place is one that replaces the member there. -/
theorem Object.put_eq_replacing {name tag : String}
    (h : o.members[i]? = some (.field name tag g))
    (hg : (r [i]).getD (g.replacing fun path => r (i :: path)) = f)
    (hr : ∀ j path, j ≠ i → r (j :: path) = none) : o.put i name tag f = o.replacing r := by
  obtain ⟨label, typeName, table, primaryKey, members⟩ := o
  rw [put, Object.replacing]
  congr 1
  apply List.ext_getElem?
  intro j
  rw [getElem?_replacingAll, Nat.zero_add]
  by_cases hj : j = i
  case pos =>
      obtain ⟨hi, -⟩ := List.getElem?_eq_some_iff.mp h
      have hmember : members[i]? = some (.field name tag g) := h
      have hi : i < members.length := hi
      subst hj
      rw [hmember, List.getElem?_set_self hi, Option.map_some, Member.replacing, hg]
  case neg =>
      have hsame : Member.replacing (fun path => r (j :: path)) = id := by
        funext m
        exact m.replacing_eq_self fun path => hr j path hj
      rw [hsame, Option.map_id, id, List.getElem?_set_ne (Ne.symm hj)]

theorem Field.updateObject?_eq_replacing (f : Field) {p : Object} (h : f.object? = some p)
    {a : Attempt Object} (ha : a.state = p.replacing r) :
    f.updateObject? (fun _ => a) = some ⟨f.replacing r, a.failure⟩ := by
  match f with
  | .scalar _ => cases h
  | .nested _ =>
      obtain rfl := Option.some.inj h
      rw [updateObject?, Field.replacing, ← ha]
      rfl
  | .optional _ _ _ none => cases h
  | .optional _ _ _ (some f) =>
      rw [updateObject?, updateObject?_eq_replacing f h ha, Option.map_some, Field.replacing]
      rfl

/-- Assigning at a path replaces the member there, and no other. -/
theorem Object.assignAt?_eq_replacing (h : o.at? path = some f) (hne : path ≠ []) :
    o.assignAt? v path =
      some ⟨o.replacing ((f.assign v).state.onlyAt path), (f.assign v).failure⟩ := by
  induction path generalizing o with
  | nil => exact absurd rfl hne
  | cons i rest ih =>
      obtain ⟨g, hg, hrest⟩ := Option.bind_eq_some_iff.mp (Object.at?_cons ▸ h)
      obtain ⟨name, tag, hmember⟩ := field?_eq_some.mp hg
      have hothers : ∀ j path, j ≠ i →
          (f.assign v).state.onlyAt (i :: rest) (j :: path) = none := fun j path hj =>
        Field.onlyAt_of_ne fun heq => hj (List.cons.inj heq).1
      by_cases hlast : rest = []
      case pos =>
          subst hlast
          obtain rfl : g = f := Option.some.inj hrest
          rw [assignAt?_singleton hmember, Attempt.map,
            put_eq_replacing hmember (by rw [Field.onlyAt_self, Option.getD_some]) hothers]
      case neg =>
          obtain ⟨p, hp, hinner⟩ := Field.exists_object?_of_at? hrest hlast
          have hwithin : (fun path => (f.assign v).state.onlyAt (i :: rest) (i :: path)) =
              (f.assign v).state.onlyAt rest := by
            funext q
            simp [Field.onlyAt]
          have hfirst : (f.assign v).state.onlyAt (i :: rest) [i] = none :=
            Field.onlyAt_of_ne fun heq => hlast (List.cons.inj heq).2.symm
          rw [assignAt?_cons hmember hp hlast (ih hinner hlast),
            g.updateObject?_eq_replacing hp rfl, Option.map_some, Attempt.map,
            put_eq_replacing hmember (by rw [hfirst, Option.getD_none, hwithin]) hothers]

end SqlMapping
