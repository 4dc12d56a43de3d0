import SqlMapping.Mapping.Basic
import SqlMapping.Proofs.Attempt

/-! # Visits that succeed

A visit of an object succeeds if each of its members is ignored, can be visited itself or is a leaf
that can be mapped. -/

namespace SqlMapping

variable {s : Scope} {qualifier : String} {path : List Nat} {fields : List MappedField}

/-! ## Members -/

theorem visitAll_cons_eq_ok {m : Member} {ms : List Member} {place : Nat} :
    visitAll s qualifier path place (m :: ms) = ⟨fields, none⟩ ↔
      ∃ first rest, m.visit s qualifier (path ++ [place]) = ⟨first, none⟩ ∧
        visitAll s qualifier path (place + 1) ms = ⟨rest, none⟩ ∧ first ++ rest = fields := by
  rw [visitAll]
  rcases m.visit s qualifier (path ++ [place]) with ⟨first, _ | e⟩
  · simp [Attempt.map_eq_ok]
  · simp

/-- What a member contributes to a visit. -/
inductive Member.Visits (s : Scope) (qualifier : String) (path : List Nat) :
    Member → List MappedField → Prop where
  | ignored {m : Member} {t : Tag} (htag : Tag.parse m.tag = .ok t) (hignore : t.ignore) :
      Visits s qualifier path m []
  | nested {name tag : String} {f : Field} {t : Tag} {fields : List MappedField}
      (htag : Tag.parse tag = .ok t) (hmapped : t.ignore = false) (hnested : f.kind = .nested)
      (h : f.visit s (if t.extend then (s.extension name t f.object?).aliasName else qualifier) path
        name = ⟨fields, none⟩) :
      Visits s qualifier path (.field name tag f) fields
  | leaf {name tag : String} {f : Field} {t : Tag} (htag : Tag.parse tag = .ok t)
      (hmapped : t.ignore = false) (hleaf : f.kind ≠ .nested)
      (hpresent : s.mode = .select → f.isNull = false) :
      Visits s qualifier path (.field name tag f) [s.leaf qualifier name t path f]

theorem Member.visits_of_visit {m : Member} (h : m.visit s qualifier path = ⟨fields, none⟩) :
    m.Visits s qualifier path fields := by
  cases m with
  | unsupported name tag k =>
      rw [visit] at h
      split at h
      · cases h
      · rename_i t htag
        split at h
        · rename_i hignore
          cases h
          exact .ignored htag hignore
        · cases h
  | field name tag f =>
      rw [visit] at h
      split at h
      · cases h
      · rename_i t htag
        split at h
        · rename_i hignore
          cases h
          exact .ignored htag hignore
        · rename_i hmapped
          have hmapped : t.ignore = false := by simpa using hmapped
          split at h
          · rename_i hnested
            exact .nested htag hmapped hnested h
          · rename_i hleaf
            split at h
            · cases h
            · rename_i hpresent
              cases h
              exact .leaf htag hmapped hleaf fun hmode => by simpa [hmode] using hpresent

theorem Member.Visits.visit {m : Member} (h : m.Visits s qualifier path fields) :
    m.visit s qualifier path = ⟨fields, none⟩ := by
  cases h with
  | @ignored _ t htag hignore =>
      cases m with
      | field name tag f =>
          have htag : Tag.parse tag = .ok t := htag
          simp [Member.visit, htag, hignore]
      | unsupported name tag k =>
          have htag : Tag.parse tag = .ok t := htag
          simp [Member.visit, htag, hignore]
  | nested htag hmapped hnested h => simpa [Member.visit, htag, hmapped, hnested] using h
  | @leaf name tag f t htag hmapped hleaf hpresent =>
      have hselected : ¬ (f.isNull && s.mode = .select) := by
        intro h
        obtain ⟨hnull, hmode⟩ := Bool.and_eq_true_iff.mp h
        simp [hpresent (of_decide_eq_true hmode)] at hnull
      simp only [Member.visit, htag, hmapped, hleaf, hselected, Bool.false_eq_true, if_false]

theorem Member.visit_eq_ok {m : Member} :
    m.visit s qualifier path = ⟨fields, none⟩ ↔ m.Visits s qualifier path fields :=
  ⟨visits_of_visit, Visits.visit⟩

theorem Scalar.kind_ne_nested (s : Scalar) : s.kind ≠ .nested := by
  cases s <;> simp [kind]

end SqlMapping
