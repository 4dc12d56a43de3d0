import SqlMapping.Proofs.Query.Placement

/-! # Merged values

The values of a closure are bound twice, when its query is built and when they are merged into the
query around it. The second time drops the nulls that the first took from lists, so that a closure
hands on the values of its placeholders exactly when it supplies no null. -/

namespace SqlMapping

open Value (present)

/-- A merge hands on every value of the other binding if none is null, and only then. -/
theorem Binding.clauseValues_merge_eq_iff (b o : Binding) (k : Bucket) :
    (b.merge k o).clauseValues k = b.clauseValues k ++ o.values ↔
      ∀ v ∈ o.values, v.isNull = false := by
  rw [clauseValues_merge, if_pos rfl, List.append_cancel_left_eq]
  exact Value.present_eq_self

namespace Query

variable (q : Query)

theorem clauseValues_apply_sub (logic : Logic) (column operator : String) (steps : List Step)
    (hf : (Query.run (.empty q.dialect) steps).failure = none) (k : Bucket) :
    (q.apply (.sub logic column operator steps)).binding.clauseValues k =
      q.binding.clauseValues k ++
        if k = .filter then present (Query.run (.empty q.dialect) steps).values else [] := by
  simp [Query.apply, compareSub, hf, Query.values]

theorem clauseValues_apply_join (kind : JoinKind) (table : String) (steps : List JoinStep)
    (hon : steps.any JoinStep.isOn = true) (k : Bucket) :
    (q.apply (.join kind table steps)).binding.clauseValues k =
      q.binding.clauseValues k ++
        if k = .join then
          present (Join.run (Join.start q.dialect kind table) steps).query.values
        else [] := by
  have hc := Join.conditions_run_start q.dialect kind table steps
  rw [hon, Bool.not_true] at hc
  obtain ⟨hbinding, -, -⟩ := Query.addJoin_of_not_isEmpty (q := q) hc
  simp [Query.apply, hbinding, Query.values]

end Query

/-- The placeholders of a sub query take what it hands on exactly if its ledger is faithful. -/
theorem takes_sub_iff (d : Dialect) (steps : List Step) {sql : Sql}
    (hsql : (Query.run (.empty d) steps).selectSql = .ok sql) :
    Takes sql (Ledger.run d {} steps).calls (present (Query.run (.empty d) steps).values) ↔
      (Ledger.run d {} steps).Faithful := by
  rw [((Written.run d steps).select hsql).takes_iff]
  exact (Accounted.run d steps).present_values_eq_iff

/-- The placeholders of a join take what its query hands on exactly if its ledger is faithful. -/
theorem takes_join_iff (d : Dialect) (kind : JoinKind) (table : String) (steps : List JoinStep)
    {sql : Sql} (hsql : (Join.run (Join.start d kind table) steps).sql = .ok sql) :
    Takes sql (Ledger.runJoin d {} steps).ofJoin.calls
        (present (Join.run (Join.start d kind table) steps).query.values) ↔
      (Ledger.runJoin d {} steps).ofJoin.Faithful := by
  rw [((Written.runJoin d kind table steps).join sql hsql).takes_iff]
  exact (Accounted.runJoin d kind table steps).ofJoin.present_values_eq_iff

/-- What merges lose: a merge hands on all values of a binding exactly if none is null, and a
closure the values of its placeholders exactly if its calls supply no null and no call that it
leaves out supplies anything else. -/
theorem merge_exact_iff (b o : Binding) (k : Bucket) (q : Query) :
    ((b.merge k o).clauseValues k = b.clauseValues k ++ o.values ↔
      ∀ v ∈ o.values, v.isNull = false) ∧
    (∀ (logic : Logic) (column operator : String) (steps : List Step),
      let sub := Query.run (.empty q.dialect) steps
      let l := Ledger.run q.dialect {} steps
      sub.failure = none →
        (∀ k, (q.apply (.sub logic column operator steps)).binding.clauseValues k =
          q.binding.clauseValues k ++ if k = .filter then present sub.values else []) ∧
        ∀ sql, sub.selectSql = .ok sql → (Takes sql l.calls (present sub.values) ↔ l.Faithful)) ∧
    ∀ (kind : JoinKind) (table : String) (steps : List JoinStep),
      let join := Join.run (Join.start q.dialect kind table) steps
      let l := (Ledger.runJoin q.dialect {} steps).ofJoin
      steps.any JoinStep.isOn = true →
        (∀ k, (q.apply (.join kind table steps)).binding.clauseValues k =
          q.binding.clauseValues k ++ if k = .join then present join.query.values else []) ∧
        ∀ sql, join.sql = .ok sql →
          (Takes sql l.calls (present join.query.values) ↔ l.Faithful) := by
  refine ⟨Binding.clauseValues_merge_eq_iff b o k, ?_, ?_⟩
  · intro logic column operator steps sub l hf
    refine ⟨q.clauseValues_apply_sub logic column operator steps hf, fun sql hsql => ?_⟩
    exact takes_sub_iff q.dialect steps hsql
  · intro kind table steps join l hon
    refine ⟨q.clauseValues_apply_join kind table steps hon, fun sql hsql => ?_⟩
    exact takes_join_iff q.dialect kind table steps hsql

/-- A choice among nulls only, which has a placeholder all the same. -/
def nullChoice : Step :=
  .among .and "x" [.null] false

/-- Neither a sub query nor a join hands on the null of its placeholder. -/
theorem not_takes_nullChoice :
    let sub := Query.run (.empty .generic) [.table "t", nullChoice]
    let steps : List JoinStep := [.on .and "a" "=" "b", .query nullChoice]
    let join := Join.run (Join.start .generic .inner "t") steps
    (sub.failure = none ∧ ∃ sql, sub.selectSql = .ok sql ∧ sql.slots = 1 ∧
      ¬ Takes sql (Ledger.run .generic {} [.table "t", nullChoice]).calls (present sub.values)) ∧
    steps.any JoinStep.isOn = true ∧ ∃ sql, join.sql = .ok sql ∧ sql.slots = 1 ∧
      ¬ Takes sql (Ledger.runJoin .generic {} steps).ofJoin.calls (present join.query.values) := by
  intro sub steps join
  obtain ⟨-, hsub, hjoin⟩ := merge_exact_iff .empty .empty .filter (.empty .generic)
  obtain ⟨-, hsub⟩ := hsub .and "y" "in" [.table "t", nullChoice] rfl
  obtain ⟨-, hjoin⟩ := hjoin .inner "t" steps rfl
  refine ⟨⟨rfl, _, rfl, by decide +kernel, fun htakes => ?_⟩, rfl, _, rfl, by decide +kernel,
    fun htakes => ?_⟩
  · have hfaithful := (hsub _ rfl).mp htakes
    exact absurd (hfaithful.calls .null (.head _)) (by decide)
  · have hfaithful := (hjoin _ rfl).mp htakes
    exact absurd (hfaithful.calls .null (.head _)) (by decide)

end SqlMapping
