import SqlMapping.Object.Basic
import SqlMapping.Proofs.Object.Scalar

/-! # Values that are refused

A member that cannot take a value stays as it is, with one exception: an absent optional that the
value would have gone into has been filled by then, and stays filled. -/

namespace SqlMapping

/-- The type of a member that is stored in one column: that of a scalar, which takes values, or an
optional one of such a type, which has a name. -/
inductive ColumnType where
  | scalar (s : Scalar) (h : s.SameType s)
  | optional (name : String) (t : ColumnType)

namespace ColumnType

def kind : ColumnType → Kind
  | scalar s _ => s.kind
  | optional _ t => t.kind

/-- A fresh member of the type: an optional one is absent. -/
def fresh? : ColumnType → Option Field
  | scalar s _ => s.fresh?.map .scalar
  | optional name t => some (.optional t.kind name t.fresh? none)

end ColumnType

/-- A member of a type. -/
inductive Field.HasType : ColumnType → Field → Prop
  | scalar {s u : Scalar} {hs : s.SameType s} (h : s.SameType u) :
      HasType (.scalar s hs) (.scalar u)
  | absent (name : String) (t : ColumnType) :
      HasType (.optional name t) (.optional t.kind name t.fresh? none)
  | present (name : String) {t : ColumnType} {f : Field} (h : HasType t f) :
      HasType (.optional name t) (.optional t.kind name t.fresh? (some f))

/-- Whether an absent optional stands where a value would go, and can be filled for it. -/
def Field.opens : Field → Bool
  | optional _ _ (some _) none => true
  | optional _ _ _ (some f) => f.opens
  | _ => false

/-- A member that is filled wherever a value would go. -/
def Field.opened : Field → Field
  | optional k n (some f) none => .optional k n (some f) (some f.opened)
  | optional k n fresh (some f) => .optional k n fresh (some f.opened)
  | f => f

/-- Two members that are written alike. -/
structure Field.Alike (f g : Field) : Prop where
  value : f.toValue = g.toValue
  kind : f.kind = g.kind
  null : f.isNull = g.isNull
  zero : f.isZero = g.isZero

variable {f : Field} {t : ColumnType} {v : Value}

/-! ## Members that open -/

theorem Field.opened_eq_self_iff (f : Field) : f.opened = f ↔ f.opens = false := by
  match f with
  | .scalar _ => simp [opened, opens]
  | .nested _ => simp [opened, opens]
  | .optional _ _ none none => simp [opened, opens]
  | .optional _ _ (some _) none => simp [opened, opens]
  | .optional _ _ none (some f) => simpa [opened, opens] using f.opened_eq_self_iff
  | .optional _ _ (some _) (some f) => simpa [opened, opens] using f.opened_eq_self_iff

/-- A null makes an optional member absent. -/
theorem Field.assign_optional_of_isNull {k : Kind} {n : String} {fresh content : Option Field}
    (h : v.isNull = true) :
    (optional k n fresh content).assign v = ⟨optional k n fresh none, none⟩ := by
  cases fresh <;> cases content <;> exact if_pos h

theorem Field.assign_optional_present {k : Kind} {n : String} {fresh : Option Field}
    (h : v.isNull = false) :
    (optional k n fresh (some f)).assign v =
      (f.assign v).map fun g => optional k n fresh (some g) := by
  cases fresh <;> exact if_neg (by simp [h])

theorem Field.assign_optional_absent {k : Kind} {n : String} (h : v.isNull = false) :
    (optional k n (some f) none).assign v =
      (f.assign v).map fun g => optional k n (some f) (some g) :=
  if_neg (by simp [h])

/-- A refused value leaves a member opened for it. -/
theorem Field.state_assign_of_failure (f : Field) (h : (f.assign v).failure ≠ none) :
    (f.assign v).state = f.opened := by
  match f with
  | .scalar s =>
      rw [assign] at h ⊢
      split at h
      · exact absurd rfl h
      · rfl
  | .nested _ => rfl
  | .optional k n fresh content =>
      have hnull : v.isNull = false := by
        cases hv : v.isNull with
        | false => rfl
        | true => exact absurd (congrArg Attempt.failure (assign_optional_of_isNull hv)) h
      match content with
      | none =>
          cases fresh with
          | none => exact congrArg Attempt.state (if_neg (by simp [hnull]))
          | some f =>
              rw [assign_optional_absent hnull] at h ⊢
              exact congrArg (fun g => optional k n (some f) (some g)) (f.state_assign_of_failure h)
      | some f =>
          rw [assign_optional_present hnull] at h ⊢
          have hopened : (optional k n fresh (some f)).opened =
              optional k n fresh (some f.opened) := by cases fresh <;> rfl
          rw [hopened]
          exact congrArg (fun g => optional k n fresh (some g)) (f.state_assign_of_failure h)

/-! ## Members of a type -/

theorem Scalar.SameType.kind_eq {s u : Scalar} (h : s.SameType u) : u.kind = s.kind := by
  cases h <;> rfl

theorem ColumnType.kind_ne (t : ColumnType) : t.kind ≠ .null ∧ t.kind ≠ .nested := by
  induction t with
  | scalar s _ => cases s <;> exact ⟨nofun, nofun⟩
  | optional _ t ih => exact ih

/-- Opened, a fresh member holds a scalar. -/
theorem ColumnType.exists_fresh (t : ColumnType) :
    ∃ g, t.fresh? = some g ∧ g.opened.kind = t.kind := by
  induction t with
  | scalar s h => cases h <;> exact ⟨_, rfl, rfl⟩
  | optional name t ih =>
      obtain ⟨g, hg, hkind⟩ := ih
      refine ⟨_, rfl, ?_⟩
      rw [hg]
      exact hkind

namespace Field.HasType

theorem kind_opened (h : f.HasType t) : f.opened.kind = t.kind := by
  induction h with
  | scalar h => exact h.kind_eq
  | absent name t =>
      obtain ⟨g, hg, hkind⟩ := t.exists_fresh
      rw [hg]
      exact hkind
  | @present name t f h ih =>
      cases t.fresh? <;> exact ih

theorem kind_of_opens (h : f.HasType t) (hopens : f.opens = true) : f.kind = .null := by
  induction h with
  | scalar h => cases hopens
  | absent name t => exact if_pos (by simpa [Kind.isScalar] using t.kind_ne.2)
  | @present name t f h ih =>
      refine ih ?_
      cases hfresh : t.fresh? <;> simpa [hfresh, opens] using hopens

end Field.HasType

/-- A member that refuses a value is as it was, also in what is written for it, just if no absent
optional stood where the value would have gone. Else this one has been filled. -/
theorem refused_unchanged_iff (hf : f.HasType t) (v : Value)
    (hrefused : (f.assign v).failure ≠ none) :
    (f.assign v).state = f.opened ∧
      ((f.assign v).state = f ↔ f.opens = false) ∧
      (f.Alike (f.assign v).state ↔ f.opens = false) := by
  have hstate := f.state_assign_of_failure hrefused
  rw [hstate]
  refine ⟨rfl, f.opened_eq_self_iff, fun halike => ?_, fun hopens => ?_⟩
  · cases hopens : f.opens with
    | false => rfl
    | true =>
        have hkind := hf.kind_of_opens hopens
        rw [halike.kind, hf.kind_opened] at hkind
        exact absurd hkind t.kind_ne.1
  · rw [f.opened_eq_self_iff.mpr hopens]
    exact ⟨rfl, rfl, rfl, rfl⟩

/-- An optional number that is absent. -/
def absentCount : Field :=
  .optional .integer "i64" (some (.scalar (.integer (.fixed .i64) (.zero _)))) none

theorem absentCount_hasType : absentCount.HasType
    (.optional "i64" (.scalar (.integer (.fixed .i64) (.zero _)) (.integer ..))) :=
  .absent "i64" (.scalar (.integer (.fixed .i64) (.zero _)) (.integer ..))

/-- Text that is no number leaves a zero in it. -/
theorem not_unchanged_absentCount :
    (absentCount.assign (.text (some "abc"))).failure ≠ none ∧
      (absentCount.assign (.text (some "abc"))).state ≠ absentCount ∧
      ¬ absentCount.Alike (absentCount.assign (.text (some "abc"))).state ∧
      absentCount.kind = .null ∧
      (absentCount.assign (.text (some "abc"))).state.kind = .integer := by
  have hrefused : (absentCount.assign (.text (some "abc"))).failure ≠ none := by decide +kernel
  obtain ⟨hstate, hsame, halike⟩ := refused_unchanged_iff absentCount_hasType _ hrefused
  have hopens : absentCount.opens ≠ false := by decide
  exact ⟨hrefused, fun h => hopens (hsame.mp h), fun h => hopens (halike.mp h), rfl,
    by rw [hstate]; rfl⟩

end SqlMapping
