import SqlMapping.Proofs.Query.Ledger
import SqlMapping.Query.Write

/-! # Queries that failed

A query remembers the first of its calls that could not be followed, the calls of its closures
included, until it is reset. None of its statements is compiled.
-/

namespace SqlMapping

/-! ## The first failure -/

def Step.isReset : Step → Bool
  | reset => true
  | _ => false

mutual
/-- Why a call cannot be followed, by itself or within its closure. -/
def Step.cause? (d : Dialect) : Step → Option Cause
  | .compare _ _ operator _ =>
    match d.operator operator with
    | .error c => some c
    | .ok _ => none
  | .between _ _ first last _ =>
    if Query.isBound first && Query.isBound last then none else some .invalidBetweenValue
  | .sub _ _ _ steps => Step.causeOf? d none steps
  | .join _ _ steps => JoinStep.causeOf? d none steps
  | _ => none
/-- What remains of a cause after calls, or the first of these. -/
def Step.causeOf? (d : Dialect) (found : Option Cause) : List Step → Option Cause
  | [] => found
  | s :: ss => Step.causeOf? d (if s.isReset then none else found.or (s.cause? d)) ss
def JoinStep.causeOf? (d : Dialect) (found : Option Cause) : List JoinStep → Option Cause
  | [] => found
  | .on .. :: ss => JoinStep.causeOf? d found ss
  | .query s :: ss => JoinStep.causeOf? d (if s.isReset then none else found.or (s.cause? d)) ss
end

namespace Query

theorem fail_eq (q : Query) (c : Cause) : q.fail c = { q with failure := q.failure.or (some c) } := by
  obtain ⟨_, failure, _⟩ := q
  cases failure <;> rfl

theorem addJoin_eq (q : Query) (j : Join) :
    q.addJoin j =
      if j.conditions.isEmpty then { q with failure := q.failure.or j.query.failure }
      else
        { q with
          failure := q.failure.or j.query.failure
          aliases := Entries.insert j.table.name j.table.aliasName q.aliases
          binding := q.binding.merge .join j.query.binding
          joins := q.joins ++ [j] } := by
  obtain ⟨⟩ := q
  unfold addJoin
  cases j.query.failure with
  | none => simp only [Option.or_none]
  | some c => simp only [fail_eq]

theorem compareSub_eq (q : Query) (logic : Logic) (column operator : String) (sub : Query) :
    q.compareSub logic column operator sub =
      if sub.failure.isSome then { q with failure := q.failure.or sub.failure }
      else
        { q with
          binding := q.binding.merge .filter sub.binding
          wheres := q.wheres ++ [.sub logic column (givenOperator operator) sub] } := by
  unfold compareSub
  cases sub.failure with
  | none => rfl
  | some c => exact q.fail_eq c

theorem failure_fail (q : Query) (c : Cause) : (q.fail c).failure = q.failure.or (some c) := by
  rw [fail_eq]

theorem failure_compareSub (q : Query) (logic : Logic) (column operator : String) (sub : Query) :
    (q.compareSub logic column operator sub).failure = q.failure.or sub.failure := by
  rw [compareSub_eq]
  cases sub.failure with
  | none => exact (Option.or_none).symm
  | some c => rfl

theorem failure_addJoin (q : Query) (j : Join) :
    (q.addJoin j).failure = q.failure.or j.query.failure := by
  rw [addJoin_eq]
  split <;> rfl

/-- One call keeps the failure or adds its own if its closure fails as its calls do. -/
theorem failure_apply_of (q : Query) (s : Step)
    (hsub : ∀ logic column operator steps, s = .sub logic column operator steps →
      (run (.empty q.dialect) steps).failure = Step.causeOf? q.dialect none steps)
    (hjoin : ∀ kind table steps, s = .join kind table steps →
      (Join.run (Join.start q.dialect kind table) steps).query.failure =
        JoinStep.causeOf? q.dialect none steps) :
    (q.apply s).failure = if s.isReset then none else q.failure.or (s.cause? q.dialect) := by
  cases s with
  | compare logic column operator value =>
      simp only [apply, compare, Step.cause?, Step.isReset]
      cases q.dialect.operator operator with
      | error c => simp [failure_fail]
      | ok op => simp [bind, addWhere]
  | between logic column first last negated =>
      simp only [apply, between, Step.cause?, Step.isReset]
      split
      · simp [bind, addWhere]
      · simp [failure_fail]
  | sub logic column operator steps =>
      simp [apply, failure_compareSub, Step.cause?, Step.isReset, hsub _ _ _ _ rfl]
  | join kind table steps =>
      simp [apply, failure_addJoin, Step.cause?, Step.isReset, hjoin _ _ _ rfl]
  | reset => rfl
  | take rows =>
      simp only [apply, take, Step.cause?, Step.isReset]
      split <;> simp
  | _ => simp [apply, setTable, setAlias, noteAlias, among, bind, addWhere, orderBy, skip,
      Step.cause?, Step.isReset]

mutual
/-- A call that cannot be followed fails the query unless it failed before. -/
theorem failure_apply (q : Query) : ∀ s : Step,
    (q.apply s).failure = if s.isReset then none else q.failure.or (s.cause? q.dialect)
  | .sub .. =>
      q.failure_apply_of _ (by rintro _ _ _ _ ⟨⟩; exact failure_run _ _) nofun
  | .join .. =>
      q.failure_apply_of _ nofun (by rintro _ _ _ ⟨⟩; exact failure_runJoin _ _)
  | .table _ | .aliased _ | .distinct | .select _ | .compare .. | .among .. | .between ..
  | .null .. | .order .. | .skip _ | .take _ | .reset =>
      q.failure_apply_of _ nofun nofun
theorem failure_run (q : Query) : ∀ steps : List Step,
    (q.run steps).failure = Step.causeOf? q.dialect q.failure steps
  | [] => rfl
  | s :: ss => by
      rw [run, failure_run (q.apply s) ss, failure_apply q s, apply_dialect, Step.causeOf?]
theorem failure_runJoin (j : Join) : ∀ steps : List JoinStep,
    (j.run steps).query.failure = JoinStep.causeOf? j.query.dialect j.query.failure steps
  | [] => rfl
  | .on .. :: ss => by
      rw [Join.run, failure_runJoin _ ss]
      rfl
  | .query s :: ss => by
      rw [Join.run, failure_runJoin _ ss, Join.apply, failure_apply j.query s, apply_dialect,
        JoinStep.causeOf?]
end

/-- Without a reset, calls leave the failure there was or that of the first that has one. -/
theorem failure_run_of_no_reset (q : Query) {steps : List Step} (hreset : .reset ∉ steps) :
    (q.run steps).failure = q.failure.or (steps.findSome? (Step.cause? q.dialect)) := by
  induction steps generalizing q with
  | nil => simp [run]
  | cons s ss ih =>
      rw [List.mem_cons, not_or] at hreset
      obtain ⟨hs, hss⟩ := hreset
      have hplain : s.isReset = false := by
        cases s with
        | reset => exact absurd rfl hs
        | _ => rfl
      rw [run, ih _ hss, failure_apply, hplain, apply_dialect, List.findSome?_cons]
      cases hc : s.cause? q.dialect <;> cases q.failure <;> simp

/-- A failure outlasts all calls but a reset. -/
theorem failure_run_of_failed {q : Query} {c : Cause} (h : q.failure = some c) {steps : List Step}
    (hsteps : steps.all (!·.isReset)) : (q.run steps).failure = some c := by
  induction steps generalizing q with
  | nil => exact h
  | cons s ss ih =>
      rw [List.all_cons, Bool.and_eq_true, Bool.not_eq_true'] at hsteps
      obtain ⟨hs, hss⟩ := hsteps
      exact ih (by rw [failure_apply, hs, h]; rfl) hss

/-! ## Statements -/

/-- No statement of a query is compiled, for one reason. -/
structure Refuses (q : Query) (c : Cause) : Prop where
  select : q.selectSql = .fail c
  delete : q.deleteSql = .fail c
  insert : ∀ naming p, q.insertSql naming p = .fail c
  update : ∀ naming p, q.updateSql naming p = .fail c

theorem refuses_of_failed {q : Query} {c : Cause} (h : q.failure = some c) : q.Refuses c where
  select := by
    obtain ⟨⟩ := q
    obtain rfl := h
    rfl
  delete := by
    rw [deleteSql, h]
    rfl
  insert naming p := by
    rw [insertSql, check, h]
    rfl
  update naming p := by
    rw [updateSql, check, h]
    rfl

end Query

end SqlMapping
