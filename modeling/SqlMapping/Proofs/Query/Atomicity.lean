import SqlMapping.Proofs.Query.Failing

/-! # Calls that fail

A call that cannot be followed leaves the query as it was, but for the failure that the query
remembers. The exception is a join whose closure fails and adds a condition: it is added all the
same, with its alias and the values that the rest of its closure binds.
-/

namespace SqlMapping

/-- Whether a call adds a join: one without conditions is left out. -/
def Step.addsJoin : Step → Bool
  | join _ _ steps => steps.any JoinStep.isOn
  | _ => false

namespace Query

variable {q : Query} {s : Step} {c : Cause}

/-- A call that cannot be followed and adds no join only fails the query. -/
theorem apply_of_cause (h : s.cause? q.dialect = some c) (hj : s.addsJoin = false) :
    q.apply s = q.fail c := by
  cases s with
  | compare logic column operator value =>
      rw [Step.cause?] at h
      rw [apply, compare]
      cases hop : q.dialect.operator operator with
      | ok keyword =>
          rw [hop] at h
          cases h
      | error e =>
          rw [hop] at h
          obtain rfl := Option.some.inj h
          rfl
  | between logic column first last negated =>
      rw [Step.cause?] at h
      rw [apply, between]
      split at h
      · cases h
      · rename_i hbound
        obtain rfl := Option.some.inj h
        rw [if_neg hbound]
  | sub logic column operator steps =>
      have hfailure : (Query.run (.empty q.dialect) steps).failure = some c :=
        (failure_run _ _).trans h
      rw [apply, compareSub_eq, hfailure, fail_eq]
      rfl
  | join kind table steps =>
      have hfailure : (Join.run (Join.start q.dialect kind table) steps).query.failure = some c :=
        (failure_runJoin _ _).trans h
      have hon := Join.conditions_run_start q.dialect kind table steps
      rw [show steps.any JoinStep.isOn = false from hj] at hon
      rw [apply, addJoin_eq, hfailure, fail_eq, if_pos (by simpa using hon)]
  | _ => cases h

/-- A join that fails is added if it has a condition. -/
theorem apply_join_of_cause {kind : JoinKind} {table : String} {steps : List JoinStep}
    (h : JoinStep.causeOf? q.dialect none steps = some c) (hon : steps.any JoinStep.isOn = true) :
    let j := Join.run (Join.start q.dialect kind table) steps
    q.apply (.join kind table steps) =
      { q with
        failure := q.failure.or (some c)
        aliases := Entries.insert j.table.name j.table.aliasName q.aliases
        binding := q.binding.merge .join j.query.binding
        joins := q.joins ++ [j] } := by
  intro j
  have hfailure : j.query.failure = some c := (failure_runJoin _ _).trans h
  have hconditions := Join.conditions_run_start q.dialect kind table steps
  rw [hon] at hconditions
  rw [apply, addJoin_eq, if_neg (by simpa using hconditions), hfailure]

/-- A call that cannot be followed leaves all but the failure as it was unless it adds a join. -/
theorem apply_eq_fail_iff (h : s.cause? q.dialect = some c) :
    q.apply s = q.fail c ↔ s.addsJoin = false := by
  constructor
  · intro hfail
    cases s with
    | join kind table steps =>
        cases hon : steps.any JoinStep.isOn with
        | false => exact hon
        | true =>
            have hjoins := congrArg Query.joins hfail
            rw [apply_join_of_cause h hon, fail_joins] at hjoins
            exact absurd hjoins (by simp)
    | _ => rfl
  · exact apply_of_cause h

end Query

/-- What a call does that cannot be followed: it is undone unless it is a join with a condition,
which is added with all that its closure binds. The first such call decides why no statement is
compiled until a reset. -/
theorem failing_call_atomic_iff (q : Query) (s : Step) {c : Cause}
    (h : s.cause? q.dialect = some c) :
    let kept := q.failure.getD c
    (q.apply s = { q with failure := some kept } ↔ s.addsJoin = false) ∧
    (∀ kind table steps, s = .join kind table steps → s.addsJoin = true →
      let j := Join.run (Join.start q.dialect kind table) steps
      q.apply s =
        { q with
          failure := some kept
          aliases := Entries.insert j.table.name j.table.aliasName q.aliases
          binding := q.binding.merge .join j.query.binding
          joins := q.joins ++ [j] }) ∧
    ∀ later, .reset ∉ later →
      ((q.apply s).run later).failure = some kept ∧ ((q.apply s).run later).Refuses kept := by
  intro kept
  have hkept : q.failure.or (some c) = some kept := Option.or_some
  refine ⟨?_, ?_, fun later hlater => ?_⟩
  · rw [← hkept, ← q.fail_eq]
    exact Query.apply_eq_fail_iff h
  · rintro kind table steps rfl hon
    rw [← hkept]
    exact Query.apply_join_of_cause h hon
  · have hplain : s.isReset = false := by
      cases s with
      | reset => cases h
      | _ => rfl
    have hfailure : ((q.apply s).run later).failure = some kept := by
      rw [Query.failure_run_of_no_reset _ hlater, Query.failure_apply, hplain, h, ← hkept]
      cases q.failure <;> rfl
    exact ⟨hfailure, Query.refuses_of_failed hfailure⟩

/-- A join of which one predicate has an operator that no dialect has. -/
def brokenJoin : Step :=
  .join .inner "posts"
    [.on .and "posts.user_id" "=" "users.id",
      .query (.compare .and "posts.id" "=" (.text (some "7"))),
      .query (.compare .and "posts.kind" "~~bogus~~" (.text (some "a")))]

/-- A broken join stays in the query, with a value that its closure bound before it failed. -/
theorem not_atomic_brokenJoin :
    let q := (Query.empty .mysql).run [.table "users"]
    let c := Cause.invalidOperator "~~bogus~~"
    brokenJoin.cause? q.dialect = some c ∧ q.apply brokenJoin ≠ { q with failure := some c } ∧
      (q.apply brokenJoin).joins.length = 1 ∧ (q.apply brokenJoin).values = [.text (some "7")] ∧
      (q.apply brokenJoin).Refuses c := by
  intro q c
  have hcause : brokenJoin.cause? q.dialect = some c := rfl
  obtain ⟨hatomic, -, hlater⟩ := failing_call_atomic_iff q brokenJoin hcause
  have hkept : q.failure.getD c = c := rfl
  rw [hkept] at hatomic hlater
  refine ⟨hcause, ?_, rfl, rfl, (hlater [] (List.not_mem_nil)).2⟩
  rw [Ne, hatomic]
  decide

end SqlMapping
