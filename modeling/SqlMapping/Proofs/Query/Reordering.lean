import SqlMapping.Proofs.Query.Failing

/-! # The order of calls

Each clause of a statement is described by calls of its own. Calls of different clauses can be
exchanged: what is compiled depends on the calls of each clause in their order, and not on how they
are mixed with those of other clauses.
-/

namespace SqlMapping

open scoped List

/-- The clauses that calls describe. -/
inductive Clause where
  /-- The table with its alias. -/
  | source
  | distinct
  | columns
  | joins
  | wheres
  | order
  | offset
  | limit
  deriving DecidableEq

/-- The clause that a call describes; a reset describes none. -/
def Step.clause? : Step → Option Clause
  | table _ | aliased _ => some .source
  | distinct => some .distinct
  | select _ => some .columns
  | join .. => some .joins
  | compare .. | among .. | between .. | null .. | sub .. => some .wheres
  | order .. => some .order
  | skip _ => some .offset
  | take _ => some .limit
  | reset => none

/-- What is said in a clause, and the values bound for it. -/
inductive Part where
  | source (table : TableRef)
  | distinct (on : Bool)
  | columns (columns : List String)
  | joins (joins : List Join) (values : List Value)
  | wheres (wheres : List Predicate) (values : List Value)
  | order (columns : List String) (direction : Direction)
  | offset (rows : Option Nat)
  | limit (rows : Option Nat)

/-- The same calls in another order that keeps the order of those of one clause. -/
structure Reordered (steps steps' : List Step) : Prop where
  perm : steps ~ steps'
  clauses : ∀ c, steps.filter (·.clause? = some c) = steps'.filter (·.clause? = some c)

namespace Query

/-! ## Clauses -/

/-- What a query says in a clause, with the values that are bound there. -/
def part (q : Query) : Clause → Part
  | .source => .source q.table
  | .distinct => .distinct q.distinct
  | .columns => .columns q.columns
  | .joins => .joins q.joins (q.binding.bucket .join)
  | .wheres => .wheres q.wheres (q.binding.bucket .filter)
  | .order => .order q.orderColumns q.direction
  | .offset => .offset q.offset
  | .limit => .limit q.limit

variable {q q' : Query} {c : Clause} {s : Step} {steps steps' : List Step}

/-- A failure belongs to no clause. -/
theorem part_fail (q : Query) (cause : Cause) : (q.fail cause).part c = q.part c := by
  rw [fail_eq]
  cases c <;> rfl

/-- A call leaves the other clauses alone. -/
theorem part_apply_of_ne (q : Query) (hs : s ≠ .reset) (hc : s.clause? ≠ some c) :
    (q.apply s).part c = q.part c := by
  cases s with
  | reset => exact absurd rfl hs
  | join kind table steps =>
      rw [apply, addJoin_eq]
      split
      · cases c <;> rfl
      · cases c with
        | joins => exact absurd rfl hc
        | _ => rfl
  | compare logic column operator value =>
      rw [apply, compare]
      split
      · exact q.part_fail _
      · cases c with
        | wheres => exact absurd rfl hc
        | _ => rfl
  | between logic column first last negated =>
      rw [apply, between]
      split
      · cases c with
        | wheres => exact absurd rfl hc
        | _ => rfl
      · exact q.part_fail _
  | sub logic column operator steps =>
      rw [apply, compareSub_eq]
      split
      · cases c <;> rfl
      · cases c with
        | wheres => exact absurd rfl hc
        | _ => rfl
  | take rows =>
      rw [apply, take]
      split
      · cases c with
        | limit => exact absurd rfl hc
        | _ => rfl
      · rfl
  | _ => cases c <;> first | rfl | exact absurd rfl hc

theorem part_addWhere_bind (h : q.part .wheres = q'.part .wheres) (p : Predicate)
    (values : List Value) :
    ((q.bind values).addWhere p).part .wheres = ((q'.bind values).addWhere p).part .wheres := by
  obtain ⟨hwheres, hvalues⟩ := Part.wheres.inj h
  simp [part, addWhere, bind, Binding.addAll, hwheres, hvalues]

/-- What a call makes of its clause depends on nothing but this clause and the dialect. -/
theorem part_apply_congr (h : q.part c = q'.part c) (hd : q.dialect = q'.dialect)
    (hc : s.clause? = some c) : (q.apply s).part c = (q'.apply s).part c := by
  cases s with
  | reset => cases hc
  | join kind table steps =>
      obtain rfl := Option.some.inj hc
      obtain ⟨hjoins, hvalues⟩ := Part.joins.inj h
      simp only [apply, addJoin_eq, hd]
      split
      · exact h
      · simp [part, Binding.merge, Binding.addAll, hjoins, hvalues]
  | compare logic column operator value =>
      obtain rfl := Option.some.inj hc
      simp only [apply, compare, hd]
      split
      · rw [part_fail, part_fail, h]
      · exact part_addWhere_bind h _ _
  | among logic column values negated =>
      obtain rfl := Option.some.inj hc
      exact part_addWhere_bind h _ _
  | between logic column first last negated =>
      obtain rfl := Option.some.inj hc
      simp only [apply, between]
      split
      · exact part_addWhere_bind h _ _
      · rw [part_fail, part_fail, h]
  | null logic column negated =>
      obtain rfl := Option.some.inj hc
      obtain ⟨hwheres, hvalues⟩ := Part.wheres.inj h
      simp [apply, part, addWhere, hwheres, hvalues]
  | sub logic column operator steps =>
      obtain rfl := Option.some.inj hc
      simp only [apply, compareSub_eq, hd]
      split
      · exact h
      · exact part_addWhere_bind h _ _
  | take rows =>
      obtain rfl := Option.some.inj hc
      simp only [apply, take]
      split
      · rfl
      · exact h
  | aliased text =>
      obtain rfl := Option.some.inj hc
      obtain htable := Part.source.inj h
      simp [apply, setAlias, noteAlias, part, htable]
  | order columns direction =>
      obtain rfl := Option.some.inj hc
      obtain ⟨hcolumns, -⟩ := Part.order.inj h
      simp [apply, orderBy, part, hcolumns]
  | table _ | distinct | select _ | skip _ =>
      obtain rfl := Option.some.inj hc
      rfl

/-- After a run a clause is what its own calls make of it. -/
theorem part_run_filter (hreset : .reset ∉ steps) (h : q.part c = q'.part c)
    (hd : q.dialect = q'.dialect) :
    (q.run steps).part c = (q'.run (steps.filter (·.clause? = some c))).part c := by
  induction steps generalizing q q' with
  | nil => exact h
  | cons s ss ih =>
      rw [List.mem_cons, not_or] at hreset
      obtain ⟨hs, hss⟩ := hreset
      by_cases hc : s.clause? = some c
      · rw [List.filter_cons_of_pos (by simpa using hc)]
        exact ih hss (part_apply_congr h hd hc) (by simp [hd])
      · rw [List.filter_cons_of_neg (by simpa using hc)]
        exact ih hss ((q.part_apply_of_ne (Ne.symm hs) hc).trans h) (by simp [hd])

/-- Calls other than a reset bind values in two clauses only. -/
theorem bucket_apply (q : Query) (hs : s ≠ .reset) {k : Bucket} (hjoin : k ≠ .join)
    (hfilter : k ≠ .filter) : (q.apply s).binding.bucket k = q.binding.bucket k := by
  cases s with
  | reset => exact absurd rfl hs
  | join kind table steps =>
      rw [apply, addJoin_eq]
      split
      · rfl
      · exact if_neg hjoin
  | compare logic column operator value =>
      rw [apply, compare]
      split
      · rw [fail_binding]
      · exact if_neg hfilter
  | among => exact if_neg hfilter
  | between logic column first last negated =>
      rw [apply, between]
      split
      · exact if_neg hfilter
      · rw [fail_binding]
  | sub logic column operator steps =>
      rw [apply, compareSub_eq]
      split
      · rfl
      · exact if_neg hfilter
  | take rows =>
      rw [apply, take]
      split <;> rfl
  | _ => rfl

theorem bucket_run (q : Query) (hreset : .reset ∉ steps) {k : Bucket} (hjoin : k ≠ .join)
    (hfilter : k ≠ .filter) : (q.run steps).binding.bucket k = q.binding.bucket k := by
  induction steps generalizing q with
  | nil => rfl
  | cons s ss ih =>
      rw [List.mem_cons, not_or] at hreset
      obtain ⟨hs, hss⟩ := hreset
      rw [run, ih _ hss, q.bucket_apply (Ne.symm hs) hjoin hfilter]

/-! ## Reordered calls -/

/-- The same query with other aliases. -/
def withAliases (aliases : List (String × String)) (q : Query) : Query :=
  { q with aliases }

theorem selectSql_withAliases (aliases : List (String × String)) (q : Query) :
    (q.withAliases aliases).selectSql = q.selectSql := by
  obtain ⟨⟩ := q
  rfl

/-- Queries that say the same in every clause are the same up to the aliases they know. -/
theorem eq_of_part (hd : q.dialect = q'.dialect) (hf : q.failure = q'.failure)
    (hpart : ∀ c, q.part c = q'.part c)
    (hbucket : ∀ k, k ≠ .join → k ≠ .filter → q.binding.bucket k = q'.binding.bucket k) :
    q.withAliases q'.aliases = q' := by
  obtain ⟨hjoins, hjoin⟩ := Part.joins.inj (hpart .joins)
  obtain ⟨hwheres, hfilter⟩ := Part.wheres.inj (hpart .wheres)
  obtain ⟨horder, hdirection⟩ := Part.order.inj (hpart .order)
  have hbinding : q.binding = q'.binding := by
    refine congrArg Binding.mk (funext fun k => ?_)
    by_cases hk : k = .join
    · rw [hk, hjoin]
    by_cases hk' : k = .filter
    · rw [hk', hfilter]
    · exact hbucket k hk hk'
  have htable := Part.source.inj (hpart .source)
  have hdistinct := Part.distinct.inj (hpart .distinct)
  have hcolumns := Part.columns.inj (hpart .columns)
  have hoffset := Part.offset.inj (hpart .offset)
  have hlimit := Part.limit.inj (hpart .limit)
  rw [withAliases, hd, hf, hdistinct, hcolumns, htable, hjoins, hwheres, horder, hdirection, hlimit,
    hoffset, hbinding]
  obtain ⟨⟩ := q'
  rfl

end Query

namespace Reordered

variable {q : Query} {steps steps' : List Step}

theorem not_mem_reset (h : Reordered steps steps') (hreset : .reset ∉ steps) : .reset ∉ steps' :=
  fun hmem => hreset (h.perm.mem_iff.mpr hmem)

/-- Reordered calls record no failure if the calls recorded none. -/
theorem failure_run (h : Reordered steps steps') (hreset : .reset ∉ steps)
    (hquiet : (q.run steps).failure = q.failure) : (q.run steps').failure = q.failure := by
  rw [q.failure_run_of_no_reset hreset] at hquiet
  rw [q.failure_run_of_no_reset (h.not_mem_reset hreset)]
  cases hf : q.failure with
  | some c => rfl
  | none =>
      rw [hf, Option.none_or] at hquiet
      rw [Option.none_or, List.findSome?_eq_none_iff]
      intro s hs
      exact List.findSome?_eq_none_iff.mp hquiet s (h.perm.mem_iff.mpr hs)

/-- Reordered calls describe the same statement. -/
theorem run_eq (h : Reordered steps steps') (hreset : .reset ∉ steps)
    (hquiet : (q.run steps).failure = q.failure) :
    (q.run steps').withAliases (q.run steps).aliases = q.run steps := by
  have hreset' := h.not_mem_reset hreset
  have hdialect : (q.run steps').dialect = (q.run steps).dialect := by
    rw [Query.run_dialect, Query.run_dialect]
  have hfailure := (h.failure_run hreset hquiet).trans hquiet.symm
  refine Query.eq_of_part hdialect hfailure ?_ ?_
  · intro c
    calc (q.run steps').part c
        = (q.run (steps'.filter (·.clause? = some c))).part c :=
          Query.part_run_filter hreset' rfl rfl
      _ = (q.run (steps.filter (·.clause? = some c))).part c := by rw [h.clauses c]
      _ = (q.run steps).part c := (Query.part_run_filter hreset rfl rfl).symm
  · intro k hjoin hfilter
    rw [q.bucket_run hreset' hjoin hfilter, q.bucket_run hreset hjoin hfilter]

end Reordered

/-- The order of the calls of a query counts within each clause only: calls that record no failure,
in an order that keeps the calls of each clause in theirs, describe the same select and the same
delete, with the same values. -/
theorem reordered_calls_agree (q : Query) {steps steps' : List Step} (h : Reordered steps steps')
    (hreset : .reset ∉ steps) (hquiet : (q.run steps).failure = q.failure) :
    (q.run steps').failure = (q.run steps).failure ∧
      (q.run steps').selectSql = (q.run steps).selectSql ∧
      (q.run steps').values = (q.run steps).values ∧
      (q.run steps').deleteSql = (q.run steps).deleteSql ∧
      (q.run steps').binding.deleteValues = (q.run steps).binding.deleteValues := by
  have heq := h.run_eq hreset hquiet
  rw [← heq]
  exact ⟨rfl, (Query.selectSql_withAliases _ _).symm, rfl, rfl, rfl⟩

/-- Predicates with values, one of them in a sub query. -/
def scoringCalls : List Step :=
  [.compare .and "u.age" ">" (.text (some "18")),
    .sub .or "u.id" "in"
      [.table "bans", .compare .and "level" "=" (.text (some "high")), .select ["user_id"]]]

/-- A table and a join with a value of its own. -/
def joiningCalls : List Step :=
  [.table "users as u",
    .join .left "posts as p"
      [.on .and "p.user_id" "" "u.id", .query (.among .and "p.kind" [.text (some "a")] false)],
    .order ["p.id"] "desc", .take 5]

/-- Predicates may be given before the table and the joins or after them. -/
theorem reordered_calls_agree_scoring :
    let calls := scoringCalls ++ joiningCalls
    let calls' := joiningCalls ++ scoringCalls
    Reordered calls calls' ∧ .reset ∉ calls ∧
      ((Query.empty .generic).run calls).failure = none ∧
      ((Query.empty .generic).run calls').selectSql =
        ((Query.empty .generic).run calls).selectSql ∧
      ((Query.empty .generic).run calls').values = ((Query.empty .generic).run calls).values ∧
      ((Query.empty .generic).run calls').deleteSql =
        ((Query.empty .generic).run calls).deleteSql ∧
      ((Query.empty .generic).run calls').binding.deleteValues =
        ((Query.empty .generic).run calls).binding.deleteValues ∧
      ((Query.empty .generic).run calls).values.length = 3 := by
  intro calls calls'
  have h : Reordered calls calls' := ⟨List.perm_append_comm, fun c => by cases c <;> rfl⟩
  have hreset : .reset ∉ calls := by simp [calls, scoringCalls, joiningCalls]
  obtain ⟨-, hselect, hvalues, hdelete, hfilter⟩ :=
    reordered_calls_agree (.empty .generic) h hreset rfl
  exact ⟨h, hreset, rfl, hselect, hvalues, hdelete, hfilter, rfl⟩

end SqlMapping
