import Mathlib.Data.List.Infix
import SqlMapping.Declaration.TypeExpr

/-! # Types within others

How a member is stored is decided by its type without the optional types and parentheses around it,
however many there are. An optional type is known by its path: an end of the full path, or a path
that has this for its end. -/

namespace SqlMapping

/-! ## Paths that agree -/

theorem all_zip_iff_prefix (xs ys : List String) :
    ((xs.zip ys).all fun (x, y) => x == y) = true ↔ xs <+: ys ∨ ys <+: xs := by
  induction xs generalizing ys with
  | nil => simp
  | cons x xs ih =>
      cases ys with
      | nil => simp
      | cons y ys =>
          by_cases hxy : x = y
          · simp [hxy, ih, List.cons_prefix_cons]
          · simp [hxy, Ne.symm hxy, List.cons_prefix_cons]

/-- Paths agree if one is the end of the other. -/
theorem pathsAgree_iff (as bs : List String) :
    pathsAgree as bs = true ↔ as <:+ bs ∨ bs <:+ as := by
  rw [pathsAgree, all_zip_iff_prefix, List.reverse_prefix, List.reverse_prefix]

/-- The last segments of paths that agree are the same. -/
theorem getLast?_of_pathsAgree {as bs : List String} (ha : as ≠ []) (hb : bs ≠ [])
    (h : pathsAgree as bs = true) : as.getLast? = bs.getLast? := by
  rcases (pathsAgree_iff as bs).mp h with ⟨front, rfl⟩ | ⟨front, rfl⟩
  · rw [List.getLast?_append_of_ne_nil front ha]
  · rw [List.getLast?_append_of_ne_nil front hb]

theorem agreesWithAny_eq_false {segments : List String} {paths : List (List String)}
    (hne : segments ≠ []) (h : ∀ p ∈ paths, p ≠ [] ∧ p.getLast? ≠ segments.getLast?) :
    agreesWithAny segments paths = false := by
  rw [agreesWithAny, List.any_eq_false]
  intro p hp hagree
  exact (h p hp).2 (getLast?_of_pathsAgree hne (h p hp).1 hagree).symm

namespace TypeExpr

/-- A type that nothing is known of. -/
def IsUnknown : TypeExpr → Prop
  | pointer _ | never | inferred => True
  | _ => False

/-- A type within optional types and parentheses. -/
inductive Wraps : TypeExpr → TypeExpr → Prop
  | refl (t : TypeExpr) : Wraps t t
  | parenthesized {t u : TypeExpr} (h : Wraps t u) : Wraps (.parenthesized t) u
  | optional {t u : TypeExpr} (rooted : Bool) {segments : List String} (lifetime : Bool)
      (rest : List TypeExpr) (hne : segments ≠ [])
      (hpath : segments <:+ optionPath ∨ optionPath <:+ segments) (h : Wraps t u) :
      Wraps (.path rooted segments lifetime (t :: rest)) u

/-- The path of an optional type is none of those that no column can store. -/
theorem pathShape?_of_isOption {segments : List String} (hne : segments ≠ [])
    (h : isOption segments = true) (arguments : List TypeExpr) :
    pathShape? segments arguments = none := by
  have hlast : segments.getLast? = some "Option" := getLast?_of_pathsAgree hne (by decide) h
  have hother : ∀ paths : List (List String),
      (∀ p ∈ paths, p ≠ [] ∧ p.getLast? ≠ some "Option") → agreesWithAny segments paths = false :=
    fun paths hpaths => agreesWithAny_eq_false hne (hlast ▸ hpaths)
  simp [pathShape?, hother listPaths (by decide), hother mapPaths (by decide),
    hother setPaths (by decide), hother channelPaths (by decide)]

/-- Optional types and parentheses around a type leave its storage as it is. -/
theorem Wraps.storage?_eq {t u : TypeExpr} (h : Wraps t u) : t.storage? = u.storage? := by
  induction h with
  | refl => rfl
  | parenthesized _ ih => rw [storage?, ih]
  | optional rooted lifetime rest hne hpath _ ih =>
      have hoption := (pathsAgree_iff _ optionPath).mpr hpath
      rw [storage?, pathShape?_of_isOption hne hoption]
      simp [isOption, hoption, ih]

theorem ne_nil_of_pathShape? {segments : List String} {arguments : List TypeExpr}
    (h : pathShape? segments arguments = none) : segments ≠ [] := by
  rintro rfl
  simp [pathShape?, agreesWithAny, pathsAgree, listPaths, isBytes] at h

/-- Nothing is known of the type within optional types and parentheses. -/
def HidesUnknown (t : TypeExpr) : Prop :=
  ∃ u, t.Wraps u ∧ u.IsUnknown

/-- There is no answer just for a type that nothing is known of. -/
theorem storage?_eq_none_iff (t : TypeExpr) : t.storage? = none ↔ t.HidesUnknown := by
  constructor
  · intro h
    fun_induction storage? t with
    | case2 rooted segments lifetime inner rest hoption hshape ih =>
        obtain ⟨u, hwraps, hunknown⟩ := ih h
        have hpath := (pathsAgree_iff segments optionPath).mp hoption
        have hne := ne_nil_of_pathShape? hshape
        exact ⟨u, .optional rooted lifetime rest hne hpath hwraps, hunknown⟩
    | case11 inner ih =>
        obtain ⟨u, hwraps, hunknown⟩ := ih h
        exact ⟨u, .parenthesized hwraps, hunknown⟩
    | case12 target => exact ⟨_, .refl _, trivial⟩
    | case13 => exact ⟨_, .refl _, trivial⟩
    | case14 => exact ⟨_, .refl _, trivial⟩
    | _ => cases h
  · rintro ⟨u, hwraps, hunknown⟩
    rw [hwraps.storage?_eq]
    cases u with
    | pointer _ | never | inferred => rfl
    | _ => cases hunknown

/-- The shape of a type that no column can store. -/
def marker? (t : TypeExpr) : Option Unsupported :=
  match t.storage? with
  | some (.unsupported k) => some k
  | _ => none

end TypeExpr

end SqlMapping
