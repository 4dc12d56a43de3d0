import SqlMapping.Mapping.Basic

/-! # The walk of an object

A walk comes to the members of an object in order of declaration, depth first, with the alias that
is in force. -/

namespace SqlMapping

/-- A member that a walk comes to, with its path and the alias in force. -/
structure Stop where
  path : List Nat
  qualifier : String
  member : Member

mutual
/-- The members of an object at a path, each before those of the object it holds. -/
def Object.walk (s : Scope) (qualifier : String) (path : List Nat) : Object → List Stop
  | ⟨_, _, _, _, members⟩ => walkAll s qualifier path 0 members
/-- The walk of members, the first of which has the given place. -/
def walkAll (s : Scope) (qualifier : String) (path : List Nat) (place : Nat) :
    List Member → List Stop
  | [] => []
  | m :: ms => m.walk s qualifier (path ++ [place]) ++ walkAll s qualifier path (place + 1) ms
/-- A member and, unless it is ignored, the members of the object it holds. An extension has an
alias of its own. -/
def Member.walk (s : Scope) (qualifier : String) (path : List Nat) : Member → List Stop
  | .unsupported name tag k => [⟨path, qualifier, .unsupported name tag k⟩]
  | .field name tag f =>
    ⟨path, qualifier, .field name tag f⟩ ::
      match Tag.parse tag with
      | .error _ => []
      | .ok t =>
        if t.ignore then []
        else
          f.walk s (if t.extend then (s.extension name t f.object?).aliasName else qualifier) path
/-- The members of a present nested object. -/
def Field.walk (s : Scope) (qualifier : String) (path : List Nat) : Field → List Stop
  | .nested o => o.walk s qualifier path
  | .optional _ _ _ (some f) => f.walk s qualifier path
  | _ => []
end

/-- A member can be mapped if its tag is valid and it is ignored, or else is of a supported shape
and, in a select, present. -/
inductive Member.Fits (mode : Mode) : Member → Prop where
  | ignored {m : Member} {t : Tag} (htag : Tag.parse m.tag = .ok t) (hignore : t.ignore) :
      Fits mode m
  | mapped {name tag : String} {f : Field} {t : Tag} (htag : Tag.parse tag = .ok t)
      (hmapped : t.ignore = false)
      (hpresent : mode = .select → f.isNull = false ∧ (f.kind = .nested → f.object?.isSome)) :
      Fits mode (.field name tag f)

namespace Stop

/-- The field of a leaf that a walk comes to. -/
def leaf? (s : Scope) (p : Stop) : Option MappedField :=
  match p.member with
  | .unsupported .. => none
  | .field name tag f =>
    match Tag.parse tag with
    | .error _ => none
    | .ok t =>
      if t.ignore || f.kind = .nested then none
      else
        let column := t.column.getD (s.naming.column name)
        some
          { column :=
              if t.useAlias && !p.qualifier.isEmpty then p.qualifier ++ "." ++ column else column
            kind := f.kind, tag := t, value := f.toValue, zero := f.isZero, buffer := f.buffer
            scanned := false, path := p.path }

/-- The table of an extension that a walk comes to. -/
def extension? (s : Scope) (p : Stop) : Option TableRef :=
  match p.member with
  | .unsupported .. => none
  | .field name tag f =>
    match Tag.parse tag with
    | .error _ => none
    | .ok t =>
      if !t.ignore && f.kind = .nested && t.extend then some (s.extension name t f.object?)
      else none

end Stop

variable {s : Scope} {qualifier : String} {path : List Nat}

/-! ## The members of a walk -/

mutual
/-- A walk comes to the same members from each alias. -/
theorem Object.map_member_walk (o : Object) (q q' : String) (path path' : List Nat) :
    (o.walk s q path).map Stop.member = (o.walk s q' path').map Stop.member := by
  obtain ⟨_, _, _, _, members⟩ := o
  exact map_member_walkAll members q q' path path' 0 0
termination_by structural o
theorem map_member_walkAll (ms : List Member) (q q' : String) (path path' : List Nat)
    (place place' : Nat) :
    (walkAll s q path place ms).map Stop.member =
      (walkAll s q' path' place' ms).map Stop.member := by
  match ms with
  | [] => rfl
  | m :: ms =>
      rw [walkAll, walkAll, List.map_append, List.map_append,
        m.map_member_walk q q' (path ++ [place]) (path' ++ [place']),
        map_member_walkAll ms q q' path path' (place + 1) (place' + 1)]
termination_by structural ms
theorem Member.map_member_walk (m : Member) (q q' : String) (path path' : List Nat) :
    (m.walk s q path).map Stop.member = (m.walk s q' path').map Stop.member := by
  match m with
  | .unsupported .. => rfl
  | .field name tag f =>
      rw [Member.walk, Member.walk, List.map_cons, List.map_cons]
      split
      · rfl
      split
      · rfl
      · rw [f.map_member_walk]
termination_by structural m
theorem Field.map_member_walk (f : Field) (q q' : String) (path path' : List Nat) :
    (f.walk s q path).map Stop.member = (f.walk s q' path').map Stop.member := by
  match f with
  | .nested o => exact o.map_member_walk q q' path path'
  | .optional _ _ _ (some f) => exact f.map_member_walk q q' path path'
  | .optional _ _ _ none => rfl
  | .scalar _ => rfl
termination_by structural f
end

/-- Whether a walk fits does not depend on the alias it starts from. -/
theorem Object.fits_walk {o : Object} {mode : Mode} {q : String} (q' : String) {path : List Nat}
    (h : ∀ p ∈ o.walk s q path, p.member.Fits mode) :
    ∀ p ∈ o.walk s q' path, p.member.Fits mode := by
  rw [← List.forall_mem_map (P := fun m => Member.Fits mode m)] at h ⊢
  rwa [o.map_member_walk q' q path path]

/-! ## The order of a walk -/

mutual
theorem Object.path_of_mem_walk (o : Object) (q : String) (path : List Nat) {p : Stop}
    (h : p ∈ o.walk s q path) : ∃ i rest, p.path = path ++ i :: rest := by
  obtain ⟨_, _, _, _, members⟩ := o
  obtain ⟨i, rest, -, hpath⟩ := path_of_mem_walkAll members q path 0 h
  exact ⟨i, rest, hpath⟩
termination_by structural o
theorem path_of_mem_walkAll (ms : List Member) (q : String) (path : List Nat) (place : Nat)
    {p : Stop} (h : p ∈ walkAll s q path place ms) :
    ∃ i rest, place ≤ i ∧ p.path = path ++ i :: rest := by
  match ms with
  | [] => cases h
  | m :: ms =>
      rcases List.mem_append.mp h with h | h
      · obtain ⟨rest, hpath⟩ := m.path_of_mem_walk q (path ++ [place]) h
        exact ⟨place, rest, Nat.le_refl place, by simpa using hpath⟩
      · obtain ⟨i, rest, hi, hpath⟩ := path_of_mem_walkAll ms q path (place + 1) h
        exact ⟨i, rest, by omega, hpath⟩
termination_by structural ms
theorem Member.path_of_mem_walk (m : Member) (q : String) (path : List Nat) {p : Stop}
    (h : p ∈ m.walk s q path) : ∃ rest, p.path = path ++ rest := by
  match m with
  | .unsupported .. =>
      obtain rfl := List.mem_singleton.mp h
      exact ⟨[], (List.append_nil path).symm⟩
  | .field name tag f =>
      rcases List.mem_cons.mp h with rfl | h
      · exact ⟨[], (List.append_nil path).symm⟩
      split at h
      · cases h
      split at h
      · cases h
      · obtain ⟨i, rest, hpath⟩ := f.path_of_mem_walk _ path h
        exact ⟨i :: rest, hpath⟩
termination_by structural m
theorem Field.path_of_mem_walk (f : Field) (q : String) (path : List Nat) {p : Stop}
    (h : p ∈ f.walk s q path) : ∃ i rest, p.path = path ++ i :: rest := by
  match f with
  | .nested o => exact o.path_of_mem_walk q path h
  | .optional _ _ _ (some f) => exact f.path_of_mem_walk q path h
  | .optional _ _ _ none => cases h
  | .scalar _ => cases h
termination_by structural f
end

/-- Paths in the order of a walk: members in order of declaration, each before those within it. -/
abbrev Ascending (stops : List Stop) : Prop :=
  stops.Pairwise fun p p' => p.path < p'.path

mutual
theorem Object.ascending_walk (o : Object) (q : String) (path : List Nat) :
    Ascending (o.walk s q path) := by
  obtain ⟨_, _, _, _, members⟩ := o
  exact ascending_walkAll members q path 0
termination_by structural o
theorem ascending_walkAll (ms : List Member) (q : String) (path : List Nat) (place : Nat) :
    Ascending (walkAll s q path place ms) := by
  match ms with
  | [] => exact .nil
  | m :: ms =>
      refine List.pairwise_append.mpr ⟨m.ascending_walk q (path ++ [place]),
        ascending_walkAll ms q path (place + 1), fun p hp p' hp' => ?_⟩
      obtain ⟨rest, hpath⟩ := m.path_of_mem_walk q (path ++ [place]) hp
      obtain ⟨i, rest', hi, hpath'⟩ := path_of_mem_walkAll ms q path (place + 1) hp'
      rw [hpath, hpath', List.append_assoc]
      exact List.append_left_lt (List.cons_lt_cons_iff.mpr (.inl hi))
termination_by structural ms
theorem Member.ascending_walk (m : Member) (q : String) (path : List Nat) :
    Ascending (m.walk s q path) := by
  match m with
  | .unsupported .. => exact List.pairwise_singleton _ _
  | .field name tag f =>
      rw [Member.walk]
      split
      · exact List.pairwise_singleton _ _
      split
      · exact List.pairwise_singleton _ _
      · refine List.pairwise_cons.mpr ⟨fun p hp => ?_, f.ascending_walk _ path⟩
        obtain ⟨i, rest, hpath⟩ := f.path_of_mem_walk _ path hp
        have hlt : path ++ [] < path ++ i :: rest := List.append_left_lt (List.nil_lt_cons i rest)
        rwa [List.append_nil, ← hpath] at hlt
termination_by structural m
theorem Field.ascending_walk (f : Field) (q : String) (path : List Nat) :
    Ascending (f.walk s q path) := by
  match f with
  | .nested o => exact o.ascending_walk q path
  | .optional _ _ _ (some f) => exact f.ascending_walk q path
  | .optional _ _ _ none => exact .nil
  | .scalar _ => exact .nil
termination_by structural f
end

end SqlMapping
