import SqlMapping.Proofs.Mapping.Parsing

/-! # The alias in force

A walk carries the alias of the innermost extension that it is in. Outside of all extensions this is
the alias that it started from. -/

namespace SqlMapping

/-- The extensions that a member lies in, the outermost first. -/
def Stop.enclosing (s : Scope) (stops : List Stop) (path : List Nat) : List TableRef :=
  (stops.filter fun p => p.path <+: path ∧ p.path ≠ path).filterMap (extension? s)

/-- The alias of the innermost of some extensions, or another one outside of all. -/
def innermostAlias (qualifier : String) (tables : List TableRef) : String :=
  (tables.getLast?.map TableRef.aliasName).getD qualifier

variable {s : Scope} {qualifier : String} {path : List Nat} {p : Stop}

@[simp] theorem innermostAlias_nil : innermostAlias qualifier [] = qualifier := rfl

@[simp] theorem innermostAlias_cons (t : TableRef) (ts : List TableRef) :
    innermostAlias qualifier (t :: ts) = innermostAlias t.aliasName ts := by
  rw [innermostAlias, List.getLast?_cons, innermostAlias]
  cases ts.getLast? <;> rfl

namespace Stop

@[simp] theorem enclosing_nil : enclosing s [] path = [] := rfl

theorem enclosing_append (ps qs : List Stop) :
    enclosing s (ps ++ qs) path = enclosing s ps path ++ enclosing s qs path := by
  simp [enclosing]

theorem enclosing_cons (p : Stop) (ps : List Stop) :
    enclosing s (p :: ps) path =
      (if p.path <+: path ∧ p.path ≠ path then (p.extension? s).toList else []) ++
        enclosing s ps path := by
  by_cases h : p.path <+: path ∧ p.path ≠ path
  · cases hp : p.extension? s <;> simp [enclosing, h, hp]
  · simp [enclosing, h]

theorem enclosing_eq_nil {ps : List Stop} (h : ∀ p ∈ ps, ¬ p.path <+: path) :
    enclosing s ps path = [] := by
  have hnone : ps.filter (fun p => p.path <+: path ∧ p.path ≠ path) = [] := by
    simpa [List.filter_eq_nil_iff] using fun p hp hprefix => absurd hprefix (h p hp)
  rw [enclosing, hnone, List.filterMap_nil]

end Stop

/-- Of members in different places none lies in the other. -/
theorem not_prefix_of_ne {i j : Nat} (h : i ≠ j) (xs ys : List Nat) :
    ¬ path ++ i :: xs <+: path ++ j :: ys := by
  rw [List.prefix_append_right_inj, List.cons_prefix_cons]
  exact fun hprefix => h hprefix.1

/-- Of all members that the walk of one comes to, it is the first that the others lie in. -/
theorem Member.qualifier_of_mem_walk_of {m : Member}
    (hnest : ∀ name tag f, m = .field name tag f → ∀ qualifier, p ∈ f.walk s qualifier path →
      p.qualifier =
        innermostAlias qualifier (Stop.enclosing s (f.walk s qualifier path) p.path))
    (h : p ∈ m.walk s qualifier path) :
    p.qualifier =
      innermostAlias qualifier (Stop.enclosing s (m.walk s qualifier path) p.path) := by
  have hfirst : ∀ stops : List Stop, (∀ x ∈ stops, ¬ x.path <+: path) →
      Stop.enclosing s (⟨path, qualifier, m⟩ :: stops) path = [] := by
    intro stops hstops
    rw [Stop.enclosing_cons, Stop.enclosing_eq_nil hstops, if_neg (by simp), List.append_nil]
  have halone : m.walk s qualifier path = [⟨path, qualifier, m⟩] →
      p.qualifier =
        innermostAlias qualifier (Stop.enclosing s (m.walk s qualifier path) p.path) := by
    intro hwalk
    rw [hwalk] at h ⊢
    obtain rfl := List.mem_singleton.mp h
    rw [hfirst [] nofun]
    rfl
  cases m with
  | unsupported name tag k => exact halone rfl
  | field name tag f =>
      cases htag : Tag.parse tag with
      | error e => exact halone (by rw [walk, htag])
      | ok t =>
          cases hmapped : t.ignore with
          | true => exact halone (walk_of_ignored htag hmapped)
          | false =>
              rw [walk_field htag hmapped] at h ⊢
              rcases List.mem_cons.mp h with rfl | h
              · rw [hfirst]
                · rfl
                · intro x hx hprefix
                  obtain ⟨i, rest, hx⟩ := f.path_of_mem_walk _ path hx
                  have hlength := hprefix.length_le
                  rw [hx, List.length_append, List.length_cons] at hlength
                  omega
              · obtain ⟨i, rest, hpath⟩ := f.path_of_mem_walk _ path h
                have hnested : f.kind = .nested := by
                  by_contra hleaf
                  simp [f.walk_of_kind hleaf] at h
                have hproper : path <+: p.path ∧ path ≠ p.path := by simp [hpath]
                rw [Stop.enclosing_cons, if_pos hproper, hnest name tag f rfl _ h]
                cases hextend : t.extend <;>
                  simp [Stop.extension?, htag, hmapped, hnested, hextend]

mutual
theorem Object.qualifier_of_mem_walk (o : Object) (qualifier : String) (path : List Nat)
    (h : p ∈ o.walk s qualifier path) :
    p.qualifier =
      innermostAlias qualifier (Stop.enclosing s (o.walk s qualifier path) p.path) := by
  obtain ⟨_, _, _, _, members⟩ := o
  exact qualifier_of_mem_walkAll members qualifier path 0 h
termination_by structural o
theorem qualifier_of_mem_walkAll (ms : List Member) (qualifier : String) (path : List Nat)
    (place : Nat) (h : p ∈ walkAll s qualifier path place ms) :
    p.qualifier =
      innermostAlias qualifier (Stop.enclosing s (walkAll s qualifier path place ms) p.path) := by
  match ms with
  | [] => cases h
  | m :: ms =>
      rw [walkAll, Stop.enclosing_append]
      -- A stop in one member lies in none of the members beside it.
      rcases List.mem_append.mp h with h | h
      · obtain ⟨rest, hpath⟩ := m.path_of_mem_walk qualifier (path ++ [place]) h
        have hlater : Stop.enclosing s (walkAll s qualifier path (place + 1) ms) p.path = [] := by
          refine Stop.enclosing_eq_nil fun x hx => ?_
          obtain ⟨i, rest', hi, hx⟩ := path_of_mem_walkAll ms qualifier path (place + 1) hx
          rw [hx, hpath, List.append_assoc]
          exact not_prefix_of_ne (by omega) rest' rest
        rw [hlater, List.append_nil]
        exact m.qualifier_of_mem_walk qualifier (path ++ [place]) h
      · obtain ⟨i, rest, hi, hpath⟩ := path_of_mem_walkAll ms qualifier path (place + 1) h
        have hearlier :
            Stop.enclosing s (m.walk s qualifier (path ++ [place])) p.path = [] := by
          refine Stop.enclosing_eq_nil fun x hx => ?_
          obtain ⟨rest', hx⟩ := m.path_of_mem_walk qualifier (path ++ [place]) hx
          rw [hx, hpath, List.append_assoc]
          exact not_prefix_of_ne (by omega) rest' rest
        rw [hearlier, List.nil_append]
        exact qualifier_of_mem_walkAll ms qualifier path (place + 1) h
termination_by structural ms
theorem Member.qualifier_of_mem_walk (m : Member) (qualifier : String) (path : List Nat)
    (h : p ∈ m.walk s qualifier path) :
    p.qualifier =
      innermostAlias qualifier (Stop.enclosing s (m.walk s qualifier path) p.path) := by
  match m with
  | .unsupported .. =>
      obtain rfl := List.mem_singleton.mp h
      simp [Member.walk, Stop.enclosing_cons]
  | .field name tag f =>
      refine Member.qualifier_of_mem_walk_of ?_ h
      rintro _ _ _ ⟨⟩ qualifier hp
      exact f.qualifier_of_mem_walk qualifier path hp
termination_by structural m
theorem Field.qualifier_of_mem_walk (f : Field) (qualifier : String) (path : List Nat)
    (h : p ∈ f.walk s qualifier path) :
    p.qualifier =
      innermostAlias qualifier (Stop.enclosing s (f.walk s qualifier path) p.path) := by
  match f with
  | .nested o => exact o.qualifier_of_mem_walk qualifier path h
  | .optional _ _ _ (some f) => exact f.qualifier_of_mem_walk qualifier path h
  | .optional _ _ _ none => cases h
  | .scalar _ => cases h
termination_by structural f
end

end SqlMapping
