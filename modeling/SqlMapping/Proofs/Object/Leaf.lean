import Mathlib.Data.List.Forall2
import SqlMapping.Proofs.Mapping.Visit
import SqlMapping.Proofs.Object.Place

/-! # Leaves of an object

The leaves of an object are the members that a mapping maps to columns, each with its path. They do
not depend on what the object is mapped for. -/

namespace SqlMapping

/-- A member that is stored in one column, in its place. -/
structure Leaf where
  path : List Nat
  tag : Tag
  field : Field

/-- The leaf as a mapping has it, under its column. -/
def Leaf.mapped (l : Leaf) (column : String) : MappedField :=
  { column, kind := l.field.kind, tag := l.tag, value := l.field.toValue, zero := l.field.isZero
    buffer := l.field.buffer, scanned := false, path := l.path }

/-! ## The values of leaves -/

theorem Scalar.kind_ne_null (s : Scalar) : s.kind ≠ .null := by
  cases s <;> simp [kind]

/-- A member of the kind of nulls holds nothing. -/
theorem Field.toValue_of_kind_null (f : Field) (h : f.kind = .null) : f.toValue = .null := by
  match f with
  | .scalar s => exact absurd h s.kind_ne_null
  | .nested _ => rfl
  | .optional _ _ _ none => rfl
  | .optional _ _ _ (some f) => exact f.toValue_of_kind_null h

namespace Leaf

variable (l : Leaf) (column : String)

/-- A leaf is inserted with the value of its member, but a time or codec that is not set with a
null. -/
theorem insertValue_mapped :
    (l.mapped column).insertValue =
      if (l.field.kind = .time ∨ l.field.kind = .codec) ∧ l.field.isZero ∧ l.tag.updateZero = false
      then .null else l.field.toValue := by
  cases hkind : l.field.kind with
  | null => simp [mapped, MappedField.insertValue, hkind, l.field.toValue_of_kind_null hkind]
  | time | codec => simp [mapped, MappedField.insertValue, hkind]
  | _ => simp [mapped, MappedField.insertValue, hkind]

/-- A leaf is updated with the value of its member, or left out if it is zero and its tag does not
keep it. -/
theorem updateValue?_mapped :
    (l.mapped column).updateValue? =
      if l.field.isZero ∧ l.tag.updateZero = false then none else some l.field.toValue := by
  by_cases hkind : l.field.kind = .null
  · simp [mapped, MappedField.updateValue?, hkind, l.field.toValue_of_kind_null hkind]
  · simp [mapped, MappedField.updateValue?, hkind]

end Leaf

/-! ## The leaves of an object -/

mutual
/-- The leaves of an object at a path. -/
def Object.leaves (path : List Nat) : Object → List Leaf
  | ⟨_, _, _, _, members⟩ => leavesAmong path 0 members
/-- The leaves of members, the first of which has the given place. -/
def leavesAmong (path : List Nat) (place : Nat) : List Member → List Leaf
  | [] => []
  | m :: ms => m.leaves (path ++ [place]) ++ leavesAmong path (place + 1) ms
def Member.leaves (path : List Nat) : Member → List Leaf
  | .unsupported .. => []
  | .field _ tag f =>
    match Tag.parse tag with
    | .error _ => []
    | .ok t => if t.ignore then [] else if f.kind = .nested then f.leaves path else [⟨path, t, f⟩]
/-- The leaves of a present nested object. -/
def Field.leaves (path : List Nat) : Field → List Leaf
  | .nested o => o.leaves path
  | .optional _ _ _ (some f) => f.leaves path
  | _ => []
end

/-- The leaves that a visit maps, in order. -/
abbrev Maps (fields : List MappedField) (leaves : List Leaf) : Prop :=
  List.Forall₂ (fun f l => f = l.mapped f.column) fields leaves

variable {s : Scope}

mutual
/-- A visit that succeeds maps each leaf of the object. -/
theorem Object.maps_of_visit (o : Object) (path : List Nat) (qualifier : String)
    {fields : List MappedField} (h : o.visit s qualifier path = ⟨fields, none⟩) :
    Maps fields (o.leaves path) := by
  obtain ⟨_, _, _, _, members⟩ := o
  exact maps_of_visitAll members path 0 qualifier h
termination_by structural o
theorem maps_of_visitAll (ms : List Member) (path : List Nat) (place : Nat) (qualifier : String)
    {fields : List MappedField} (h : visitAll s qualifier path place ms = ⟨fields, none⟩) :
    Maps fields (leavesAmong path place ms) := by
  match ms with
  | [] =>
      obtain ⟨rfl, -⟩ := Attempt.mk.inj h
      exact .nil
  | m :: ms =>
      obtain ⟨first, rest, hfirst, hrest, rfl⟩ := visitAll_cons_eq_ok.mp h
      exact List.rel_append (m.maps_of_visit (path ++ [place]) qualifier hfirst)
        (maps_of_visitAll ms path (place + 1) qualifier hrest)
termination_by structural ms
theorem Member.maps_of_visit (m : Member) (path : List Nat) (qualifier : String)
    {fields : List MappedField} (h : m.visit s qualifier path = ⟨fields, none⟩) :
    Maps fields (m.leaves path) := by
  match m with
  | .unsupported name tag k =>
      cases Member.visit_eq_ok.mp h with
      | ignored => exact .nil
  | .field name tag f =>
      cases Member.visit_eq_ok.mp h with
      | ignored htag hignore =>
          have htag : Tag.parse tag = .ok _ := htag
          simp only [Member.leaves, htag, hignore, if_true]
          exact .nil
      | nested htag hmapped hnested h =>
          have hmaps := f.maps_of_visit path _ name h
          simpa [Member.leaves, htag, hmapped, hnested] using hmaps
      | leaf htag hmapped hleaf _ =>
          simp only [Member.leaves, htag, hmapped, hleaf, Bool.false_eq_true, if_false]
          exact .cons rfl .nil
termination_by structural m
theorem Field.maps_of_visit (f : Field) (path : List Nat) (qualifier member : String)
    {fields : List MappedField} (h : f.visit s qualifier path member = ⟨fields, none⟩) :
    Maps fields (f.leaves path) := by
  match f with
  | .nested o => exact o.maps_of_visit path qualifier h
  | .optional _ _ _ (some f) => exact f.maps_of_visit path qualifier member h
  | .optional _ _ _ none =>
      simp only [Field.visit] at h
      split at h
      · cases h
      · cases h
        exact .nil
  | .scalar _ =>
      cases h
      exact .nil
termination_by structural f
end

/-! ## The paths of leaves -/

/-- A leaf that stands in an object at a path. -/
def Leaf.In (l : Leaf) (path : List Nat) (o : Object) : Prop :=
  l.field.kind ≠ .nested ∧ ∃ i rest, l.path = path ++ i :: rest ∧ o.at? (i :: rest) = some l.field

theorem Field.object?_eq_none_of_kind (f : Field) (h : f.kind ≠ .nested) : f.object? = none := by
  match f with
  | .scalar _ => rfl
  | .nested _ => exact absurd rfl h
  | .optional _ _ _ none => rfl
  | .optional _ _ _ (some f) => exact object?_eq_none_of_kind f h

mutual
theorem Object.in_of_mem_leaves (o : Object) (path : List Nat) {l : Leaf}
    (h : l ∈ o.leaves path) : l.In path o := by
  obtain ⟨_, _, _, _, members⟩ := o
  obtain ⟨i, name, tag, f, rest, hmember, hkind, hpath, hat⟩ := of_mem_leavesAmong members path 0 h
  refine ⟨hkind, i, rest, by rw [hpath, Nat.zero_add], ?_⟩
  rw [Object.at?_cons, Object.field?_eq_some.mpr ⟨name, tag, hmember⟩, Option.bind_some, hat]
termination_by structural o
theorem of_mem_leavesAmong (ms : List Member) (path : List Nat) (place : Nat) {l : Leaf}
    (h : l ∈ leavesAmong path place ms) :
    ∃ i name tag f rest, ms[i]? = some (.field name tag f) ∧ l.field.kind ≠ .nested ∧
      l.path = path ++ (place + i) :: rest ∧ f.at? rest = some l.field := by
  match ms with
  | [] => cases h
  | m :: ms =>
      rcases List.mem_append.mp h with h | h
      · obtain ⟨name, tag, f, rest, rfl, hkind, hpath, hat⟩ := m.of_mem_leaves (path ++ [place]) h
        exact ⟨0, name, tag, f, rest, rfl, hkind, by simpa using hpath, hat⟩
      · obtain ⟨i, name, tag, f, rest, hmember, hkind, hpath, hat⟩ :=
          of_mem_leavesAmong ms path (place + 1) h
        refine ⟨i + 1, name, tag, f, rest, by simpa using hmember, hkind, ?_, hat⟩
        rw [hpath, Nat.add_right_comm, Nat.add_assoc]
termination_by structural ms
theorem Member.of_mem_leaves (m : Member) (path : List Nat) {l : Leaf} (h : l ∈ m.leaves path) :
    ∃ name tag f rest, m = .field name tag f ∧ l.field.kind ≠ .nested ∧ l.path = path ++ rest ∧
      f.at? rest = some l.field := by
  match m with
  | .unsupported .. => cases h
  | .field name tag f =>
      simp only [Member.leaves] at h
      split at h
      · cases h
      split at h
      · cases h
      split at h
      case isTrue =>
          obtain ⟨o, ho, hkind, i, rest, hpath, hat⟩ := f.in_of_mem_leaves path h
          refine ⟨name, tag, f, i :: rest, rfl, hkind, hpath, ?_⟩
          rw [Field.at?_of_object? ho (List.cons_ne_nil i rest), hat]
      case isFalse hkind =>
          obtain rfl := List.mem_singleton.mp h
          exact ⟨name, tag, f, [], rfl, hkind, (List.append_nil path).symm, rfl⟩
termination_by structural m
theorem Field.in_of_mem_leaves (f : Field) (path : List Nat) {l : Leaf} (h : l ∈ f.leaves path) :
    ∃ o, f.object? = some o ∧ l.In path o := by
  match f with
  | .nested o => exact ⟨o, rfl, o.in_of_mem_leaves path h⟩
  | .optional _ _ _ (some f) => exact f.in_of_mem_leaves path h
  | .optional _ _ _ none => cases h
  | .scalar _ => cases h
termination_by structural f
end

mutual
/-- No two leaves of an object have one path. -/
theorem Object.nodup_paths (o : Object) (path : List Nat) :
    ((o.leaves path).map Leaf.path).Nodup := by
  obtain ⟨_, _, _, _, members⟩ := o
  exact nodup_pathsAmong members path 0
termination_by structural o
theorem nodup_pathsAmong (ms : List Member) (path : List Nat) (place : Nat) :
    ((leavesAmong path place ms).map Leaf.path).Nodup := by
  match ms with
  | [] => exact List.nodup_nil
  | m :: ms =>
      rw [leavesAmong, List.map_append, List.nodup_append]
      refine ⟨m.nodup_paths (path ++ [place]), nodup_pathsAmong ms path (place + 1), ?_⟩
      intro p hp q hq hpq
      obtain ⟨l, hl, rfl⟩ := List.mem_map.mp hp
      obtain ⟨k, hk, rfl⟩ := List.mem_map.mp hq
      obtain ⟨_, _, _, rest, _, _, hl, _⟩ := m.of_mem_leaves (path ++ [place]) hl
      obtain ⟨i, _, _, _, rest', _, _, hk, _⟩ := of_mem_leavesAmong ms path (place + 1) hk
      -- the places behind the first member are greater than its own
      have hplace : place = place + 1 + i := by
        simpa [hl, hk] using congrArg (fun p => (p.drop path.length).head?) hpq
      omega
termination_by structural ms
theorem Member.nodup_paths (m : Member) (path : List Nat) :
    ((m.leaves path).map Leaf.path).Nodup := by
  match m with
  | .unsupported .. => exact List.nodup_nil
  | .field _ tag f =>
      simp only [Member.leaves]
      split
      · exact List.nodup_nil
      split
      · exact List.nodup_nil
      split
      · exact f.nodup_paths path
      · exact List.nodup_cons.mpr ⟨List.not_mem_nil, List.nodup_nil⟩
termination_by structural m
theorem Field.nodup_paths (f : Field) (path : List Nat) :
    ((f.leaves path).map Leaf.path).Nodup := by
  match f with
  | .nested o => exact o.nodup_paths path
  | .optional _ _ _ (some f) => exact f.nodup_paths path
  | .optional _ _ _ none => exact List.nodup_nil
  | .scalar _ => exact List.nodup_nil
termination_by structural f
end

variable {o : Object} {l k : Leaf}

theorem Leaf.object?_eq_none (h : l ∈ o.leaves []) : l.field.object? = none :=
  l.field.object?_eq_none_of_kind (o.in_of_mem_leaves [] h).1

theorem Leaf.path_ne_nil (h : l ∈ o.leaves []) : l.path ≠ [] := by
  obtain ⟨-, i, rest, hpath, -⟩ := o.in_of_mem_leaves [] h
  exact hpath ▸ List.cons_ne_nil i rest

theorem Leaf.at?_path (h : l ∈ o.leaves []) : o.at? l.path = some l.field := by
  obtain ⟨-, i, rest, hpath, hat⟩ := o.in_of_mem_leaves [] h
  rw [hpath, List.nil_append, hat]

/-- The leaves of an object stand apart. -/
theorem Leaf.apart_of_ne (hl : l ∈ o.leaves []) (hk : k ∈ o.leaves []) (hne : l.path ≠ k.path) :
    Apart l.path k.path :=
  Object.apart_of_ne (at?_path hl) (object?_eq_none hl) (at?_path hk) (object?_eq_none hk) hne

end SqlMapping
