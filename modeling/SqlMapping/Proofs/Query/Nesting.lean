import SqlMapping.Proofs.Query.Merging

/-! # Joins within joins

A join closure may itself join further tables. Their values are handed on with those of the closure,
but their text is never written: unless these values are all null, the query around the closure has
more values than placeholders. -/

namespace SqlMapping

open Value (present)

/-- The text of a join does not depend on the joins of its query. -/
theorem Join.sql_withJoins (j : Join) (js : List Join) :
    Join.sql { j with query := { j.query with joins := js } } = j.sql := by
  obtain ⟨kind, table, conditions, ⟨⟩⟩ := j
  simp only [Join.sql, Query.wheresOf]

theorem Value.length_present_add (vs : List Value) :
    (present vs).length + vs.countP Value.isNull = vs.length := by
  rw [present, ← List.countP_eq_length_filter, Nat.add_comm,
    List.length_eq_countP_add_countP Value.isNull]
  simp

/-- What a join closure with a condition adds to a query. Its ledger has the calls behind its
predicates, those behind the joins within it, and those that these leave out in turn. -/
structure AddsJoin (q q' : Query) (j : Join) (l : Ledger) : Prop where
  joins : q'.joins = q.joins ++ [j]
  /-- The values of the closure are bound for joins, nulls apart. -/
  values : ∀ k, q'.binding.clauseValues k =
    q.binding.clauseValues k ++ if k = .join then present j.query.values else []
  /-- Whatever is joined within the closure is not written. -/
  unwritten : ∀ js, Join.sql { j with query := { j.query with joins := js } } = j.sql
  /-- The placeholders of nulls go without a value, and the values of what is left out without a
  placeholder. -/
  surplus : ∀ sql, j.sql = .ok sql →
    (present j.query.values).length + (Supply.all l.wheres.flatten).countP Value.isNull =
      sql.slots + (present (Supply.all (l.joins.flatten ++ l.unwritten))).length
  /-- The placeholders take the values just if there are none of either kind. -/
  takes_iff : ∀ sql, j.sql = .ok sql →
    (Takes sql l.wheres.flatten (present j.query.values) ↔
      (∀ v ∈ Supply.all l.wheres.flatten, v.isNull = false) ∧
        ∀ v ∈ Supply.all (l.joins.flatten ++ l.unwritten), v.isNull = true)

namespace Ledger

variable (l : Ledger)

theorem calls_ofJoin : l.ofJoin.calls = l.wheres.flatten := by
  simp [ofJoin, calls]

theorem mem_all_unwritten_ofJoin {v : Value} :
    v ∈ Supply.all l.ofJoin.unwritten ↔ v ∈ Supply.all (l.joins.flatten ++ l.unwritten) := by
  simp only [ofJoin, Supply.all_append, List.mem_append, or_comm]

theorem faithful_iff :
    l.Faithful ↔ (∀ v ∈ Supply.all l.calls, v.isNull = false) ∧
      ∀ v ∈ Supply.all l.unwritten, v.isNull = true :=
  ⟨fun h => ⟨h.calls, h.unwritten⟩, fun h => ⟨h.1, h.2⟩⟩

end Ledger

namespace Join

variable {j : Join} {l : Ledger} {sql : Sql}

theorem length_values (hbound : Accounted j.query l) (hwritten : Written j.query l)
    (h : j.sql = .ok sql) :
    (present j.query.values).length + (Supply.all l.wheres.flatten).countP Value.isNull =
      sql.slots + (present (Supply.all (l.joins.flatten ++ l.unwritten))).length := by
  have hlength := hbound.ofJoin.length_values
  have hslots := (hwritten.join sql h).slots
  have hnulls := Value.length_present_add (Supply.all l.wheres.flatten)
  rw [l.calls_ofJoin] at hlength hslots
  simp only [Ledger.ofJoin, Supply.all_append, Value.present_append, List.length_append]
    at hlength ⊢
  omega

theorem takes_iff (hbound : Accounted j.query l) (hwritten : Written j.query l)
    (h : j.sql = .ok sql) :
    Takes sql l.wheres.flatten (present j.query.values) ↔
      (∀ v ∈ Supply.all l.wheres.flatten, v.isNull = false) ∧
        ∀ v ∈ Supply.all (l.joins.flatten ++ l.unwritten), v.isNull = true := by
  have htakes := (hwritten.join sql h).takes_iff.trans hbound.ofJoin.present_values_eq_iff
  rw [l.calls_ofJoin] at htakes
  simp only [htakes, Ledger.faithful_iff, l.calls_ofJoin, l.mem_all_unwritten_ofJoin]

end Join

/-- A join closure adds nothing without a condition. With one it adds its own join, the predicates
of which have placeholders, and the values of all that was called on it: those of further joins have
no placeholder. -/
theorem join_binds_iff (q : Query) (kind : JoinKind) (table : String) (steps : List JoinStep) :
    let q' := q.apply (.join kind table steps)
    let j := Join.run (Join.start q.dialect kind table) steps
    (steps.any JoinStep.isOn = false → q'.joins = q.joins ∧ q'.binding = q.binding) ∧
      (steps.any JoinStep.isOn = true →
        AddsJoin q q' j (Ledger.runJoin q.dialect {} steps)) := by
  intro q' j
  have hconditions := Join.conditions_run_start q.dialect kind table steps
  constructor
  · intro hon
    rw [hon, Bool.not_false] at hconditions
    obtain ⟨hbinding, hjoins, -⟩ := Query.addJoin_of_isEmpty (q := q) hconditions
    exact ⟨hjoins, hbinding⟩
  · intro hon
    have hbound := Accounted.runJoin q.dialect kind table steps
    have hwritten := Written.runJoin q.dialect kind table steps
    rw [hon, Bool.not_true] at hconditions
    obtain ⟨-, hjoins, -⟩ := Query.addJoin_of_not_isEmpty (q := q) hconditions
    exact {
      joins := hjoins
      values := q.clauseValues_apply_join kind table steps hon
      unwritten := j.sql_withJoins
      surplus := fun sql => Join.length_values hbound hwritten
      takes_iff := fun sql => Join.takes_iff hbound hwritten }

/-- Posts that are joined with their tags of a kind. -/
def taggedPosts : List JoinStep :=
  [.on .and "posts.user_id" "=" "users.id",
    .query (.join .inner "tags"
      [.on .and "tags.post_id" "=" "posts.id",
        .query (.compare .and "tags.kind" "=" (.text (some "a")))])]

/-- The kind of the tags is bound, but has no placeholder. -/
theorem join_binds_taggedPosts :
    let q := Query.empty .mysql
    let j := Join.run (Join.start .mysql .inner "posts") taggedPosts
    taggedPosts.any JoinStep.isOn = true ∧
      AddsJoin q (q.apply (.join .inner "posts" taggedPosts)) j
        (Ledger.runJoin .mysql {} taggedPosts) ∧
      present j.query.values = [.text (some "a")] ∧
      ∃ sql, j.sql = .ok sql ∧ sql.slots = 0 ∧ ¬ Takes sql [] (present j.query.values) := by
  intro q j
  have hadds := (join_binds_iff q .inner "posts" taggedPosts).2 rfl
  refine ⟨rfl, hadds, rfl, _, rfl, by decide +kernel, fun htakes => ?_⟩
  obtain ⟨-, hnull⟩ := (hadds.takes_iff _ rfl).mp htakes
  exact absurd (hnull _ (.head _)) (by decide)

end SqlMapping
