import SqlMapping.Proofs.Object.Leaf
import SqlMapping.Proofs.Object.Scalar

/-! # Objects of one type

An object of a type that can be read back, and another instance of the type. Both have their members
under the same names and tags; in the second one optional members may be absent. Filled, it has a
leaf for every leaf of the first. -/

namespace SqlMapping

/-- A leaf, and one of the same type. In a filled object an optional one is present. -/
inductive Field.Takes (filled : Bool) : Field → Field → Prop
  | scalar {s u : Scalar} (h : s.SameType u) : Takes filled (.scalar s) (.scalar u)
  | optional {n : String} {s₀ : Scalar} {a b : Option Scalar} (h₀ : s₀.SameType s₀)
      (ha : ∀ s ∈ a, s.SameType s₀) (hb : ∀ u ∈ b, s₀.SameType u) (hfilled : filled → b.isSome) :
      Takes filled (.optional s₀.kind n (some (.scalar s₀)) (a.map .scalar))
        (.optional s₀.kind n (some (.scalar s₀)) (b.map .scalar))

mutual
/-- An object whose members are ignored, leaves or present nested objects, and another one of the
same type. If `filled`, that one has no absent member either. -/
inductive Object.Matches (filled : Bool) : Object → Object → Prop
  | mk {label typeName table primaryKey : String} {ms ns : List Member}
      (h : MatchAll filled ms ns) :
      Object.Matches filled ⟨label, typeName, table, primaryKey, ms⟩
        ⟨label, typeName, table, primaryKey, ns⟩
inductive MatchAll (filled : Bool) : List Member → List Member → Prop
  | nil : MatchAll filled [] []
  | cons {m n : Member} {ms ns : List Member} (h : Member.Matches filled m n)
      (hs : MatchAll filled ms ns) : MatchAll filled (m :: ms) (n :: ns)
inductive Member.Matches (filled : Bool) : Member → Member → Prop
  | ignored {m n : Member} {t : Tag} (htag : Tag.parse m.tag = .ok t) (hignore : t.ignore)
      (heq : n.tag = m.tag) : Member.Matches filled m n
  | field {name tag : String} {t : Tag} {f g : Field} (htag : Tag.parse tag = .ok t)
      (hmapped : t.ignore = false) (h : Field.Matches filled f g) :
      Member.Matches filled (.field name tag f) (.field name tag g)
inductive Field.Matches (filled : Bool) : Field → Field → Prop
  | leaf {f g : Field} (h : f.Takes filled g) : Field.Matches filled f g
  | nested {o p : Object} (h : Object.Matches filled o p) :
      Field.Matches filled (.nested o) (.nested p)
  | present {k : Kind} {n : String} {fresh : Option Field} {o p : Object}
      (h : Object.Matches filled o p) :
      Field.Matches filled (.optional k n fresh (some (.nested o)))
        (.optional k n fresh (some (.nested p)))
  | absent {k : Kind} {n : String} {o p : Object} (h : Object.Matches filled o p)
      (hfilled : filled = false) :
      Field.Matches filled (.optional k n (some (.nested p)) (some (.nested o)))
        (.optional k n (some (.nested p)) none)
end

theorem Object.Matches.isEmpty_members {filled : Bool} {o p : Object} (h : o.Matches filled p) :
    p.members.isEmpty = o.members.isEmpty := by
  obtain ⟨_ | _⟩ := h <;> rfl

theorem Field.Takes.kind_ne_nested {filled : Bool} {f g : Field} (h : f.Takes filled g) :
    f.kind ≠ .nested := by
  cases h with
  | scalar h => exact Scalar.kind_ne_nested _
  | @optional n s₀ a b =>
      cases a with
      | none => simp [kind, Kind.isScalar, s₀.kind_ne_nested]
      | some s => exact s.kind_ne_nested

/-! ## Filling -/

theorem Field.Takes.fill {f g : Field} {member : String} (h : f.Takes false g) :
    ∃ g', g.fill member = ⟨g', none⟩ ∧ f.Takes true g' := by
  cases h with
  | scalar h => exact ⟨_, rfl, .scalar h⟩
  | @optional n s₀ a b h₀ ha hb _ =>
      cases b with
      | none => exact ⟨_, rfl, .optional (b := some s₀) h₀ ha (by simpa using h₀) (by simp)⟩
      | some u => exact ⟨_, rfl, .optional (b := some u) h₀ ha hb (by simp)⟩

theorem Member.fill_of_ignored {n : Member} {t : Tag} (h : Tag.parse n.tag = .ok t)
    (hignore : t.ignore) : n.fill = ⟨n, none⟩ := by
  cases n with
  | field name tag f =>
      have h : Tag.parse tag = .ok t := h
      simp [Member.fill, h, hignore]
  | unsupported name tag k =>
      have h : Tag.parse tag = .ok t := h
      simp [Member.fill, h]

mutual
theorem Object.Matches.allocate (o : Object) {p : Object} (h : o.Matches false p) :
    ∃ q, p.allocate = ⟨q, none⟩ ∧ o.Matches true q := by
  obtain ⟨_, _, _, _, ms⟩ := o
  obtain ⟨h⟩ := h
  obtain ⟨ks, hfill, hks⟩ := MatchAll.allocate ms h
  exact ⟨_, by rw [Object.allocate, hfill]; rfl, .mk hks⟩
termination_by structural o
theorem MatchAll.allocate (ms : List Member) {ns : List Member} (h : MatchAll false ms ns) :
    ∃ ks, allocateAll ns = ⟨ks, none⟩ ∧ MatchAll true ms ks := by
  match ms with
  | [] =>
      cases h
      exact ⟨[], rfl, .nil⟩
  | m :: ms =>
      obtain - | ⟨h, hs⟩ := h
      obtain ⟨k, hk, hmatch⟩ := Member.Matches.fill m h
      obtain ⟨ks, hks, hmatches⟩ := MatchAll.allocate ms hs
      exact ⟨k :: ks, by rw [allocateAll, hk, hks]; rfl, .cons hmatch hmatches⟩
termination_by structural ms
theorem Member.Matches.fill (m : Member) {n : Member} (h : m.Matches false n) :
    ∃ k, n.fill = ⟨k, none⟩ ∧ m.Matches true k := by
  match m with
  | .unsupported name tag k =>
      cases h with
      | ignored htag hignore heq =>
          exact ⟨n, Member.fill_of_ignored (heq ▸ htag) hignore, .ignored htag hignore heq⟩
  | .field name tag f =>
      cases h with
      | ignored htag hignore heq =>
          exact ⟨n, Member.fill_of_ignored (heq ▸ htag) hignore, .ignored htag hignore heq⟩
      | field htag hmapped h =>
          obtain ⟨g, hg, hmatch⟩ := Field.Matches.fill f h name
          refine ⟨.field name tag g, ?_, .field htag hmapped hmatch⟩
          simp [Member.fill, htag, hmapped, hg, Attempt.map]
termination_by structural m
theorem Field.Matches.fill (f : Field) {g : Field} (h : f.Matches false g) (member : String) :
    ∃ g', g.fill member = ⟨g', none⟩ ∧ f.Matches true g' := by
  match f with
  | .nested o =>
      cases h with
      | leaf h => exact absurd rfl h.kind_ne_nested
      | nested h =>
          obtain ⟨q, hq, hmatch⟩ := Object.Matches.allocate o h
          exact ⟨.nested q, by rw [Field.fill, hq]; rfl, .nested hmatch⟩
  | .optional k n fresh (some (.nested o)) =>
      cases h with
      | leaf h => exact absurd rfl h.kind_ne_nested
      | present h =>
          obtain ⟨q, hq, hmatch⟩ := Object.Matches.allocate o h
          refine ⟨.optional k n fresh (some (.nested q)), ?_, .present hmatch⟩
          rw [Field.fill, Field.fillObject, hq]
          rfl
      | absent h _ =>
          obtain ⟨q, hq, hmatch⟩ := Object.Matches.allocate o h
          refine ⟨.optional k n _ (some (.nested q)), ?_, .present hmatch⟩
          rw [Field.fill, Field.fillObject, hq]
          rfl
  | .scalar _ | .optional _ _ _ none | .optional _ _ _ (some (.scalar _))
  | .optional _ _ _ (some (.optional ..)) =>
      obtain ⟨g', hg', htakes⟩ : ∃ g', g.fill member = ⟨g', none⟩ ∧ Field.Takes true _ g' := by
        cases h with
        | leaf h => exact h.fill
      exact ⟨g', hg', .leaf htakes⟩
termination_by structural f
end

/-! ## Leaves -/

/-- A leaf and the one in its place of a filled object of the type. -/
structure Leaf.Takes (l k : Leaf) : Prop where
  path : l.path = k.path
  tag : l.tag = k.tag
  field : l.field.Takes true k.field

theorem Field.Takes.of_filled {f g : Field} (h : f.Takes true g) :
    g.kind ≠ .nested ∧ g.isNull = false := by
  cases h with
  | scalar h => exact ⟨Scalar.kind_ne_nested _, rfl⟩
  | @optional n s₀ a b _ _ _ hfilled =>
      obtain ⟨u, rfl⟩ := Option.isSome_iff_exists.mp (hfilled rfl)
      exact ⟨u.kind_ne_nested, rfl⟩

theorem Field.Takes.leaves {f g : Field} (h : f.Takes true g) (name tag : String) (path : List Nat) :
    List.Forall₂ Leaf.Takes ((Member.field name tag f).leaves path)
      ((Member.field name tag g).leaves path) := by
  simp only [Member.leaves, h.kind_ne_nested, h.of_filled.1, if_false]
  split
  · exact .nil
  split
  · exact .nil
  · exact .cons ⟨rfl, rfl, h⟩ .nil

theorem Member.leaves_of_ignored {n : Member} {t : Tag} (h : Tag.parse n.tag = .ok t)
    (hignore : t.ignore) (path : List Nat) : n.leaves path = [] := by
  cases n with
  | field name tag f =>
      have h : Tag.parse tag = .ok t := h
      simp [Member.leaves, h, hignore]
  | unsupported name tag k => rfl

theorem Member.leaves_nested {name tag : String} {f : Field} {t : Tag} (h : Tag.parse tag = .ok t)
    (hmapped : t.ignore = false) (hnested : f.kind = .nested) (path : List Nat) :
    (Member.field name tag f).leaves path = f.leaves path := by
  simp [Member.leaves, h, hmapped, hnested]

mutual
theorem Object.Matches.leaves (o : Object) {q : Object} (h : o.Matches true q) (path : List Nat) :
    List.Forall₂ Leaf.Takes (o.leaves path) (q.leaves path) := by
  obtain ⟨_, _, _, _, ms⟩ := o
  obtain ⟨h⟩ := h
  exact MatchAll.leaves ms h path 0
termination_by structural o
theorem MatchAll.leaves (ms : List Member) {ns : List Member} (h : MatchAll true ms ns)
    (path : List Nat) (place : Nat) :
    List.Forall₂ Leaf.Takes (leavesAmong path place ms) (leavesAmong path place ns) := by
  match ms with
  | [] =>
      cases h
      exact .nil
  | m :: ms =>
      obtain - | ⟨h, hs⟩ := h
      exact List.rel_append (Member.Matches.leaves m h (path ++ [place]))
        (MatchAll.leaves ms hs path (place + 1))
termination_by structural ms
theorem Member.Matches.leaves (m : Member) {n : Member} (h : m.Matches true n) (path : List Nat) :
    List.Forall₂ Leaf.Takes (m.leaves path) (n.leaves path) := by
  match m with
  | .unsupported name tag k =>
      cases h with
      | @ignored _ _ t htag hignore heq =>
          have htag' : Tag.parse n.tag = .ok t := by rw [heq, htag]
          rw [Member.leaves_of_ignored htag' hignore]
          exact .nil
  | .field name tag f =>
      cases h with
      | @ignored _ _ t htag hignore heq =>
          have htag' : Tag.parse n.tag = .ok t := by rw [heq, htag]
          rw [Member.leaves_of_ignored htag hignore, Member.leaves_of_ignored htag' hignore]
          exact .nil
      | field htag hmapped h =>
          rcases Field.Matches.leaves f h path with h | ⟨hf, hg, hleaves⟩
          · exact h.leaves name tag path
          · rwa [Member.leaves_nested htag hmapped hf, Member.leaves_nested htag hmapped hg]
termination_by structural m
theorem Field.Matches.leaves (f : Field) {g : Field} (h : f.Matches true g) (path : List Nat) :
    f.Takes true g ∨ f.kind = .nested ∧ g.kind = .nested ∧
      List.Forall₂ Leaf.Takes (f.leaves path) (g.leaves path) := by
  match f with
  | .nested o =>
      cases h with
      | leaf h => exact .inl h
      | nested h => exact .inr ⟨rfl, rfl, Object.Matches.leaves o h path⟩
  | .optional _ _ _ (some (.nested o)) =>
      cases h with
      | leaf h => exact .inl h
      | present h => exact .inr ⟨rfl, rfl, Object.Matches.leaves o h path⟩
      | absent _ hfilled => cases hfilled
  | .scalar _ | .optional _ _ _ none | .optional _ _ _ (some (.scalar _))
  | .optional _ _ _ (some (.optional ..)) =>
      cases h with
      | leaf h => exact .inl h
termination_by structural f
end

/-! ## Visits -/

mutual
theorem Object.Matches.visit (o : Object) {q : Object} (h : o.Matches true q) (s : Scope)
    (qualifier : String) (path : List Nat) :
    (s.mode ≠ .select → ∃ fields, o.visit s qualifier path = ⟨fields, none⟩) ∧
      ∃ fields, q.visit s qualifier path = ⟨fields, none⟩ := by
  obtain ⟨_, _, _, _, ms⟩ := o
  obtain ⟨h⟩ := h
  exact MatchAll.visit ms h s qualifier path 0
termination_by structural o
theorem MatchAll.visit (ms : List Member) {ns : List Member} (h : MatchAll true ms ns) (s : Scope)
    (qualifier : String) (path : List Nat) (place : Nat) :
    (s.mode ≠ .select → ∃ fields, visitAll s qualifier path place ms = ⟨fields, none⟩) ∧
      ∃ fields, visitAll s qualifier path place ns = ⟨fields, none⟩ := by
  match ms with
  | [] =>
      cases h
      exact ⟨fun _ => ⟨[], rfl⟩, [], rfl⟩
  | m :: ms =>
      obtain - | ⟨h, hs⟩ := h
      obtain ⟨hleft, fields, hright⟩ := Member.Matches.visit m h s qualifier (path ++ [place])
      obtain ⟨hlefts, rest, hrights⟩ := MatchAll.visit ms hs s qualifier path (place + 1)
      refine ⟨fun hmode => ?_, _, visitAll_cons_eq_ok.mpr ⟨_, _, hright, hrights, rfl⟩⟩
      obtain ⟨fields, hfields⟩ := hleft hmode
      obtain ⟨rest, hrest⟩ := hlefts hmode
      exact ⟨_, visitAll_cons_eq_ok.mpr ⟨_, _, hfields, hrest, rfl⟩⟩
termination_by structural ms
theorem Member.Matches.visit (m : Member) {n : Member} (h : m.Matches true n) (s : Scope)
    (qualifier : String) (path : List Nat) :
    (s.mode ≠ .select → ∃ fields, m.visit s qualifier path = ⟨fields, none⟩) ∧
      ∃ fields, n.visit s qualifier path = ⟨fields, none⟩ := by
  match m with
  | .unsupported name tag k =>
      cases h with
      | @ignored _ _ t htag hignore heq =>
          have htag' : Tag.parse n.tag = .ok t := by rw [heq, htag]
          exact ⟨fun _ => ⟨[], Member.visit_eq_ok.mpr (.ignored htag hignore)⟩, [],
            Member.visit_eq_ok.mpr (.ignored htag' hignore)⟩
  | .field name tag f =>
      cases h with
      | @ignored _ _ t htag hignore heq =>
          have htag' : Tag.parse n.tag = .ok t := by rw [heq, htag]
          exact ⟨fun _ => ⟨[], Member.visit_eq_ok.mpr (.ignored htag hignore)⟩, [],
            Member.visit_eq_ok.mpr (.ignored htag' hignore)⟩
      | field htag hmapped h =>
          rcases Field.Matches.visit f h s path name with h | ⟨hf, hg, hvisit⟩
          · refine ⟨fun hmode => ?_, _, Member.visit_eq_ok.mpr
              (.leaf htag hmapped h.of_filled.1 fun _ => h.of_filled.2)⟩
            exact ⟨_, Member.visit_eq_ok.mpr
              (.leaf htag hmapped h.kind_ne_nested fun hselect => absurd hselect hmode)⟩
          · obtain ⟨-, fields, hright⟩ := hvisit _
            refine ⟨fun hmode => ?_, fields, Member.visit_eq_ok.mpr (.nested htag hmapped hg hright)⟩
            obtain ⟨fields, hleft⟩ := (hvisit _).1 hmode
            exact ⟨fields, Member.visit_eq_ok.mpr (.nested htag hmapped hf hleft)⟩
termination_by structural m
theorem Field.Matches.visit (f : Field) {g : Field} (h : f.Matches true g) (s : Scope)
    (path : List Nat) (member : String) :
    f.Takes true g ∨ f.kind = .nested ∧ g.kind = .nested ∧ ∀ qualifier,
      (s.mode ≠ .select → ∃ fields, f.visit s qualifier path member = ⟨fields, none⟩) ∧
        ∃ fields, g.visit s qualifier path member = ⟨fields, none⟩ := by
  match f with
  | .nested o =>
      cases h with
      | leaf h => exact .inl h
      | nested h => exact .inr ⟨rfl, rfl, fun q => Object.Matches.visit o h s q path⟩
  | .optional _ _ _ (some (.nested o)) =>
      cases h with
      | leaf h => exact .inl h
      | present h => exact .inr ⟨rfl, rfl, fun q => Object.Matches.visit o h s q path⟩
      | absent _ hfilled => cases hfilled
  | .scalar _ | .optional _ _ _ none | .optional _ _ _ (some (.scalar _))
  | .optional _ _ _ (some (.optional ..)) =>
      cases h with
      | leaf h => exact .inl h
termination_by structural f
end

end SqlMapping
