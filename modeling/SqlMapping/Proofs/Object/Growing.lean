import SqlMapping.Object.Basic
import SqlMapping.Proofs.Attempt

/-! # Objects that grow

An object that is filled grows where an optional member is absent and not ignored: the member then
holds a fresh content, which grows in turn. Nothing else changes. An optional within a present one
does not grow. -/

namespace SqlMapping

mutual
/-- An object, and the one it grows to. -/
inductive Object.Grows : Object → Object → Prop
  | mk {label typeName table primaryKey : String} {ms ns : List Member} (h : GrowAll ms ns) :
      Object.Grows ⟨label, typeName, table, primaryKey, ms⟩
        ⟨label, typeName, table, primaryKey, ns⟩
inductive GrowAll : List Member → List Member → Prop
  | nil : GrowAll [] []
  | cons {m n : Member} {ms ns : List Member} (h : Member.Grows m n) (hs : GrowAll ms ns) :
      GrowAll (m :: ms) (n :: ns)
/-- A member whose tag is valid, and what it grows to. -/
inductive Member.Grows : Member → Member → Prop
  | ignored {m : Member} {t : Tag} (htag : Tag.parse m.tag = .ok t) (hignore : t.ignore) :
      Member.Grows m m
  | unsupported {name tag : String} {k : Unsupported} {t : Tag} (htag : Tag.parse tag = .ok t) :
      Member.Grows (.unsupported name tag k) (.unsupported name tag k)
  | field {name tag : String} {t : Tag} {f g : Field} (htag : Tag.parse tag = .ok t)
      (hmapped : t.ignore = false) (h : Field.Grows f g) :
      Member.Grows (.field name tag f) (.field name tag g)
/-- What a member holds, and the content it grows to, which is present. -/
inductive Field.Grows : Field → Field → Prop
  | scalar (s : Scalar) : Field.Grows (.scalar s) (.scalar s)
  | absent {k : Kind} {n : String} {f g : Field} (h : Field.GrowsWithin f g) :
      Field.Grows (.optional k n (some f) none) (.optional k n (some f) (some g))
  | present {k : Kind} {n : String} {fresh : Option Field} {f g : Field}
      (h : Field.GrowsWithin f g) :
      Field.Grows (.optional k n fresh (some f)) (.optional k n fresh (some g))
  | nested {o p : Object} (h : Object.Grows o p) : Field.Grows (.nested o) (.nested p)
/-- What a present optional member holds: the object in it grows. -/
inductive Field.GrowsWithin : Field → Field → Prop
  | scalar (s : Scalar) : Field.GrowsWithin (.scalar s) (.scalar s)
  | absent (k : Kind) (n : String) (fresh : Option Field) :
      Field.GrowsWithin (.optional k n fresh none) (.optional k n fresh none)
  | present {k : Kind} {n : String} {fresh : Option Field} {f g : Field}
      (h : Field.GrowsWithin f g) :
      Field.GrowsWithin (.optional k n fresh (some f)) (.optional k n fresh (some g))
  | nested {o p : Object} (h : Object.Grows o p) : Field.GrowsWithin (.nested o) (.nested p)
end

/-! ## Filling -/

theorem allocateAll_cons_eq_ok {m : Member} {ms ns : List Member} :
    allocateAll (m :: ms) = ⟨ns, none⟩ ↔
      ∃ n rest, m.fill = ⟨n, none⟩ ∧ allocateAll ms = ⟨rest, none⟩ ∧ n :: rest = ns := by
  rw [allocateAll]
  rcases m.fill with ⟨n, _ | e⟩
  · simp [Attempt.map_eq_ok]
  · simp

theorem Member.fill_unsupported_eq_ok {name tag : String} {k : Unsupported} {n : Member} :
    (unsupported name tag k).fill = ⟨n, none⟩ ↔
      ∃ t, Tag.parse tag = .ok t ∧ n = .unsupported name tag k := by
  rw [fill]
  cases Tag.parse tag <;> simp [eq_comm]

theorem Member.fill_field_eq_ok {name tag : String} {f : Field} {n : Member} :
    (field name tag f).fill = ⟨n, none⟩ ↔
      ∃ t, Tag.parse tag = .ok t ∧
        if t.ignore then n = .field name tag f
        else ∃ g, f.fill name = ⟨g, none⟩ ∧ .field name tag g = n := by
  rw [fill]
  cases Tag.parse tag with
  | error e => simp
  | ok t => cases hignore : t.ignore <;> simp [hignore, Attempt.map_eq_ok, eq_comm (b := n)]

mutual
theorem Object.allocate_eq_ok (o : Object) {p : Object} : o.allocate = ⟨p, none⟩ ↔ o.Grows p := by
  obtain ⟨_, _, _, _, ms⟩ := o
  rw [Object.allocate, Attempt.map_eq_ok]
  constructor
  · rintro ⟨ns, h, rfl⟩
    exact .mk ((allocateAll_eq_ok ms).mp h)
  · rintro ⟨h⟩
    exact ⟨_, (allocateAll_eq_ok ms).mpr h, rfl⟩
termination_by structural o
theorem allocateAll_eq_ok (ms : List Member) {ns : List Member} :
    allocateAll ms = ⟨ns, none⟩ ↔ GrowAll ms ns := by
  match ms with
  | [] =>
      constructor
      · rintro ⟨⟩
        exact .nil
      · rintro ⟨⟩
        rfl
  | m :: ms =>
      rw [allocateAll_cons_eq_ok]
      constructor
      · rintro ⟨n, rest, h, hs, rfl⟩
        exact .cons (m.fill_eq_ok.mp h) ((allocateAll_eq_ok ms).mp hs)
      · rintro (⟨⟩ | ⟨h, hs⟩)
        exact ⟨_, _, m.fill_eq_ok.mpr h, (allocateAll_eq_ok ms).mpr hs, rfl⟩
termination_by structural ms
theorem Member.fill_eq_ok (m : Member) {n : Member} : m.fill = ⟨n, none⟩ ↔ m.Grows n := by
  match m with
  | .unsupported name tag k =>
      rw [Member.fill_unsupported_eq_ok]
      constructor
      · rintro ⟨t, htag, rfl⟩
        exact .unsupported htag
      · rintro (⟨htag, -⟩ | htag)
        · exact ⟨_, htag, rfl⟩
        · exact ⟨_, htag, rfl⟩
  | .field name tag f =>
      rw [Member.fill_field_eq_ok]
      constructor
      · rintro ⟨t, htag, h⟩
        split at h
        case isTrue hignore =>
            subst h
            exact .ignored htag hignore
        case isFalse hmapped =>
            obtain ⟨g, h, rfl⟩ := h
            exact .field htag (by simpa using hmapped) ((f.fill_eq_ok name).mp h)
      · rintro (⟨htag, hignore⟩ | _ | ⟨htag, hmapped, h⟩)
        · exact ⟨_, htag, by simp [hignore]⟩
        · exact ⟨_, htag, by simpa [hmapped] using (f.fill_eq_ok name).mpr h⟩
termination_by structural m
theorem Field.fill_eq_ok (f : Field) (member : String) {g : Field} :
    f.fill member = ⟨g, none⟩ ↔ f.Grows g := by
  match f with
  | .scalar s =>
      constructor
      · rintro ⟨⟩
        exact .scalar s
      · rintro ⟨⟩
        rfl
  | .optional k n none none =>
      constructor
      · rintro ⟨⟩
      · rintro ⟨⟩
  | .optional k n (some f) none =>
      rw [Field.fill, Attempt.map_eq_ok]
      constructor
      · rintro ⟨g, h, rfl⟩
        exact .absent (f.fillObject_eq_ok.mp h)
      · rintro (_ | h)
        exact ⟨_, f.fillObject_eq_ok.mpr h, rfl⟩
  | .optional k n fresh (some f) =>
      rw [Field.fill, Attempt.map_eq_ok]
      constructor
      · rintro ⟨g, h, rfl⟩
        exact .present (f.fillObject_eq_ok.mp h)
      · rintro (_ | _ | h)
        exact ⟨_, f.fillObject_eq_ok.mpr h, rfl⟩
  | .nested o =>
      rw [Field.fill, Attempt.map_eq_ok]
      constructor
      · rintro ⟨p, h, rfl⟩
        exact .nested (o.allocate_eq_ok.mp h)
      · rintro (_ | _ | _ | h)
        exact ⟨_, o.allocate_eq_ok.mpr h, rfl⟩
termination_by structural f
theorem Field.fillObject_eq_ok (f : Field) {g : Field} :
    f.fillObject = ⟨g, none⟩ ↔ f.GrowsWithin g := by
  match f with
  | .scalar s =>
      constructor
      · rintro ⟨⟩
        exact .scalar s
      · rintro ⟨⟩
        rfl
  | .optional k n fresh none =>
      constructor
      · rintro ⟨⟩
        exact .absent k n fresh
      · rintro ⟨⟩
        rfl
  | .optional k n fresh (some f) =>
      rw [Field.fillObject, Attempt.map_eq_ok]
      constructor
      · rintro ⟨g, h, rfl⟩
        exact .present (f.fillObject_eq_ok.mp h)
      · rintro (_ | _ | h)
        exact ⟨_, f.fillObject_eq_ok.mpr h, rfl⟩
  | .nested o =>
      rw [Field.fillObject, Attempt.map_eq_ok]
      constructor
      · rintro ⟨p, h, rfl⟩
        exact .nested (o.allocate_eq_ok.mp h)
      · rintro (_ | _ | _ | h)
        exact ⟨_, o.allocate_eq_ok.mpr h, rfl⟩
termination_by structural f
end

/-! ## Objects that are full -/

mutual
/-- An object that has grown grows no more. -/
theorem Object.Grows.full : ∀ {o p : Object}, o.Grows p → p.Grows p
  | _, _, .mk h => .mk h.full
theorem GrowAll.full : ∀ {ms ns : List Member}, GrowAll ms ns → GrowAll ns ns
  | _, _, .nil => .nil
  | _, _, .cons h hs => .cons h.full hs.full
theorem Member.Grows.full : ∀ {m n : Member}, m.Grows n → n.Grows n
  | _, _, .ignored htag hignore => .ignored htag hignore
  | _, _, .unsupported htag => .unsupported htag
  | _, _, .field htag hmapped h => .field htag hmapped h.full
theorem Field.Grows.full : ∀ {f g : Field}, f.Grows g → g.Grows g
  | _, _, .scalar s => .scalar s
  | _, _, .absent h => .present h.full
  | _, _, .present h => .present h.full
  | _, _, .nested h => .nested h.full
theorem Field.GrowsWithin.full : ∀ {f g : Field}, f.GrowsWithin g → g.GrowsWithin g
  | _, _, .scalar s => .scalar s
  | _, _, .absent k n fresh => .absent k n fresh
  | _, _, .present h => .present h.full
  | _, _, .nested h => .nested h.full
end

theorem Field.Grows.isNull {f g : Field} (h : f.Grows g) : g.isNull = false := by
  cases h <;> rfl

end SqlMapping
