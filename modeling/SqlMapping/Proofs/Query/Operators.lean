import SqlMapping.Proofs.Query.Conditional
import SqlMapping.Proofs.Query.Failing

/-! # Operators of predicates

The operator of a comparison with a value is checked by the call that adds the comparison, in a
closure as well. The operator of a comparison with a sub query is taken as it is given.
-/

namespace SqlMapping

open scoped List

/-! ## What a query holds -/

/-- The operator of a comparison with a value. -/
def Predicate.valueOperator? : Predicate → Option String
  | compare _ _ operator _ => some operator
  | _ => none

/-- The operator of a comparison with a sub query. -/
def Predicate.subOperator? : Predicate → Option String
  | sub _ _ operator _ => some operator
  | _ => none

mutual
/-- The predicates of a query, with those of its joins and of its sub queries. -/
def Query.held : Query → List Predicate
  | ⟨_, _, _, _, _, joins, _, wheres, _, _, _, _, _⟩ => heldAmong wheres ++ heldInJoins joins
def heldInJoins : List Join → List Predicate
  | [] => []
  | j :: js => j.held ++ heldInJoins js
def Join.held : Join → List Predicate
  | ⟨_, _, _, query⟩ => query.held
def heldAmong : List Predicate → List Predicate
  | [] => []
  | p :: ps => p.held ++ heldAmong ps
/-- A predicate and those of its sub query. -/
def Predicate.held : Predicate → List Predicate
  | .sub logic column operator query => .sub logic column operator query :: query.held
  | .compare logic column operator value => [.compare logic column operator value]
  | .among logic column values negated => [.among logic column values negated]
  | .between logic column negated => [.between logic column negated]
  | .null logic column negated => [.null logic column negated]
end

theorem Query.held_eq (q : Query) : q.held = heldAmong q.wheres ++ heldInJoins q.joins := by
  cases q
  rfl

theorem Join.held_eq (j : Join) : j.held = j.query.held := by
  cases j
  rfl

theorem heldAmong_append (ps qs : List Predicate) :
    heldAmong (ps ++ qs) = heldAmong ps ++ heldAmong qs := by
  induction ps with
  | nil => rfl
  | cons p ps ih => rw [List.cons_append, heldAmong, heldAmong, ih, List.append_assoc]

theorem heldInJoins_append (js ks : List Join) :
    heldInJoins (js ++ ks) = heldInJoins js ++ heldInJoins ks := by
  induction js with
  | nil => rfl
  | cons j js ih => rw [List.cons_append, heldInJoins, heldInJoins, ih, List.append_assoc]

theorem held_of_wheres {q q' : Query} {p : Predicate} (hjoins : q'.joins = q.joins)
    (hwheres : q'.wheres = q.wheres ++ [p]) : q'.held ~ q.held ++ p.held := by
  have hp : heldAmong [p] = p.held := List.append_nil _
  rw [Query.held_eq, Query.held_eq, hjoins, hwheres, heldAmong_append, hp]
  exact perm_append_right_comm _ _ _

theorem held_of_joins {q q' : Query} {j : Join} (hjoins : q'.joins = q.joins ++ [j])
    (hwheres : q'.wheres = q.wheres) : q'.held = q.held ++ j.query.held := by
  have hj : heldInJoins [j] = j.query.held := (List.append_nil _).trans j.held_eq
  rw [Query.held_eq, Query.held_eq, hjoins, hwheres, heldInJoins_append, hj, List.append_assoc]

/-! ## What is checked and what is given -/

theorem Dialect.mem_operators {d : Dialect} {operator op : String}
    (h : d.operator operator = .ok op) : op ∈ d.operators := by
  simp only [Dialect.operator] at h
  split at h
  · obtain rfl := Except.ok.inj h
    cases d <;> decide
  split at h
  · rename_i hmem
    obtain rfl := Except.ok.inj h
    exact List.contains_iff_mem.mp hmem
  · cases h

theorem Dialect.operator_eq_error {d : Dialect} {operator : String} (hne : operator ≠ "")
    (h : operator ∉ d.operators) : d.operator operator = .error (.invalidOperator operator) := by
  simp [Dialect.operator, hne, h]

mutual
/-- The operators given with the sub queries of a query, after a call: those of its closure come
with it, and a reset forgets them. -/
def Step.given (d : Dialect) (ops : List String) : Step → List String
  | .sub _ _ operator steps =>
    if (Step.causeOf? d none steps).isSome then ops
    else ops ++ Query.givenOperator operator :: Step.givenAll d [] steps
  | .join _ _ steps =>
    if steps.any JoinStep.isOn then ops ++ JoinStep.givenAll d [] steps else ops
  | .reset => []
  | _ => ops
def Step.givenAll (d : Dialect) (ops : List String) : List Step → List String
  | [] => ops
  | s :: ss => Step.givenAll d (s.given d ops) ss
def JoinStep.givenAll (d : Dialect) (ops : List String) : List JoinStep → List String
  | [] => ops
  | .on .. :: ss => JoinStep.givenAll d ops ss
  | .query s :: ss => JoinStep.givenAll d (s.given d ops) ss
end

/-- The operators of a query: those of comparisons with values are in the dialect, and those of
comparisons with sub queries are the given ones. -/
structure Operated (d : Dialect) (q : Query) (ops : List String) : Prop where
  checked : ∀ p ∈ q.held, ∀ op, p.valueOperator? = some op → op ∈ d.operators
  given : q.held.filterMap Predicate.subOperator? ~ ops

namespace Operated

variable {d : Dialect} {q q' : Query} {ops ops' : List String}

theorem empty (d : Dialect) : Operated d (.empty d) [] where
  checked p hp := by cases hp
  given := .nil

theorem grow (h : Operated d q ops) (new : List Predicate) (hheld : q'.held ~ q.held ++ new)
    (hchecked : ∀ p ∈ new, ∀ op, p.valueOperator? = some op → op ∈ d.operators)
    (hgiven : new.filterMap Predicate.subOperator? ~ ops') : Operated d q' (ops ++ ops') where
  checked p hp := by
    rcases List.mem_append.mp (hheld.mem_iff.mp hp) with hp | hp
    · exact h.checked p hp
    · exact hchecked p hp
  given := by
    refine (hheld.filterMap _).trans ?_
    rw [List.filterMap_append]
    exact h.given.append hgiven

theorem congr (h : Operated d q ops) (hjoins : q'.joins = q.joins)
    (hwheres : q'.wheres = q.wheres) : Operated d q' ops := by
  have hheld : q'.held = q.held := by rw [Query.held_eq, Query.held_eq, hjoins, hwheres]
  exact ⟨hheld ▸ h.checked, hheld ▸ h.given⟩

theorem fail (h : Operated d q ops) (c : Cause) : Operated d (q.fail c) ops :=
  h.congr (Query.fail_joins q c) (Query.fail_wheres q c)

theorem addWhere (h : Operated d q ops) {p : Predicate} (hheld : p.held = [p])
    (hchecked : ∀ op, p.valueOperator? = some op → op ∈ d.operators)
    (hgiven : p.subOperator? = none) : Operated d (q.addWhere p) ops := by
  rw [← List.append_nil ops]
  refine h.grow [p] (hheld ▸ held_of_wheres rfl rfl) (List.forall_mem_singleton.mpr hchecked) ?_
  rw [List.filterMap_cons_none hgiven]
  exact .nil

theorem bind (h : Operated d q ops) (values : List Value) : Operated d (q.bind values) ops :=
  h.congr rfl rfl

theorem compareSub (h : Operated d q ops) {sub : Query} (hsub : Operated d sub ops')
    (logic : Logic) (column operator : String) (hf : sub.failure = none) :
    Operated d (q.compareSub logic column operator sub)
      (ops ++ Query.givenOperator operator :: ops') := by
  rw [Query.compareSub, hf]
  refine h.grow (Predicate.sub logic column (Query.givenOperator operator) sub).held
    (held_of_wheres rfl rfl) ?_ ?_
  · refine List.forall_mem_cons.mpr ⟨?_, hsub.checked⟩
    rintro _ ⟨⟩
  · exact hsub.given.cons _

theorem addJoin (h : Operated d q ops) {j : Join} (hj : Operated d j.query ops')
    (hc : j.conditions.isEmpty = false) : Operated d (q.addJoin j) (ops ++ ops') := by
  obtain ⟨-, hjoins, hwheres⟩ := Query.addJoin_of_not_isEmpty (q := q) hc
  exact h.grow j.query.held (.of_eq (held_of_joins hjoins hwheres)) hj.checked hj.given

/-- One call keeps the account if its closure has one. -/
theorem apply_of (h : Operated d q ops) (hd : q.dialect = d) (s : Step)
    (hsub : ∀ logic column operator steps, s = .sub logic column operator steps →
      Operated d (Query.run (.empty d) steps) (Step.givenAll d [] steps))
    (hjoin : ∀ kind table steps, s = .join kind table steps →
      Operated d (Join.run (Join.start d kind table) steps).query
        (JoinStep.givenAll d [] steps)) :
    Operated d (q.apply s) (s.given d ops) := by
  cases s with
  | reset =>
      simp only [Query.apply, hd]
      exact empty d
  | compare logic column operator value =>
      simp only [Query.apply, Query.compare, hd]
      cases hop : d.operator operator with
      | error c => exact h.fail c
      | ok op =>
          refine (h.bind [value]).addWhere rfl ?_ rfl
          rintro _ ⟨⟩
          exact Dialect.mem_operators hop
  | among logic column values negated =>
      exact (h.bind _).addWhere rfl (by rintro _ ⟨⟩) rfl
  | between logic column first last negated =>
      simp only [Query.apply, Query.between]
      split
      · exact (h.bind _).addWhere rfl (by rintro _ ⟨⟩) rfl
      · exact h.fail _
  | null logic column negated => exact h.addWhere rfl (by rintro _ ⟨⟩) rfl
  | sub logic column operator steps =>
      have hclosure := hsub _ _ _ _ rfl
      have hfailure := Query.failure_run (.empty d) steps
      simp only [Query.apply, Step.given, hd]
      cases hcause : Step.causeOf? d none steps with
      | some c =>
          rw [Query.compareSub, hfailure.trans hcause]
          exact h.fail c
      | none => exact h.compareSub hclosure logic column operator (hfailure.trans hcause)
  | join kind table steps =>
      have hclosure := hjoin _ _ _ rfl
      have hon := Join.conditions_run_start d kind table steps
      simp only [Query.apply, Step.given, hd]
      cases hany : steps.any JoinStep.isOn with
      | true => exact h.addJoin hclosure (by simp [hon, hany])
      | false =>
          obtain ⟨-, hjoins, hwheres⟩ := Query.addJoin_of_isEmpty (q := q)
            (j := Join.run (Join.start d kind table) steps) (by simp [hon, hany])
          exact h.congr hjoins hwheres
  | take rows =>
      simp only [Query.apply, Query.take]
      split
      · exact h.congr rfl rfl
      · exact h
  | _ => exact h.congr rfl rfl

mutual
/-- Every call keeps the account. -/
theorem apply {q : Query} {ops : List String} (h : Operated d q ops) (hd : q.dialect = d) :
    ∀ s : Step, Operated d (q.apply s) (s.given d ops)
  | .sub .. => h.apply_of hd _ (by rintro _ _ _ _ ⟨⟩; exact run (empty d) rfl _) nofun
  | .join .. => h.apply_of hd _ nofun (by rintro _ _ _ ⟨⟩; exact runJoin (empty d) rfl _)
  | .table _ | .aliased _ | .distinct | .select _ | .compare .. | .among .. | .between ..
  | .null .. | .order .. | .skip _ | .take _ | .reset => h.apply_of hd _ nofun nofun
theorem run {q : Query} {ops : List String} (h : Operated d q ops) (hd : q.dialect = d) :
    ∀ steps : List Step, Operated d (q.run steps) (Step.givenAll d ops steps)
  | [] => h
  | s :: ss => run (apply h hd s) (by simp [hd]) ss
theorem runJoin {j : Join} {ops : List String} (h : Operated d j.query ops)
    (hd : j.query.dialect = d) :
    ∀ steps : List JoinStep, Operated d (j.run steps).query (JoinStep.givenAll d ops steps)
  | [] => h
  | .on .. :: ss => runJoin (j := j.on ..) h hd ss
  | .query s :: ss =>
      runJoin (j := { j with query := j.query.apply s }) (apply h hd s) (by simp [hd]) ss
end

end Operated

/-! ## Operators in statements -/

/-- The operators that may stand before a sub query. -/
def Dialect.AcceptsSub (d : Dialect) (op : String) : Prop :=
  op ∈ d.operators ∨ op = "in" ∨ op = "not in"

/-- The operator of a predicate, if it has one, is accepted. -/
def Predicate.IsWhitelisted (d : Dialect) : Predicate → Prop
  | compare _ _ operator _ => operator ∈ d.operators
  | sub _ _ operator _ => d.AcceptsSub operator
  | among .. | between .. | null .. => True

namespace Operated

variable {d : Dialect} {q : Query} {ops : List String}

theorem whitelisted_iff (h : Operated d q ops) :
    (∀ p ∈ q.held, p.IsWhitelisted d) ↔ ∀ op ∈ ops, d.AcceptsSub op := by
  have hmem : ∀ op, op ∈ ops ↔ ∃ p ∈ q.held, p.subOperator? = some op := fun op => by
    rw [← h.given.mem_iff, List.mem_filterMap]
  constructor
  · intro hall op hop
    obtain ⟨p, hp, hsub⟩ := (hmem op).mp hop
    have hp := hall p hp
    cases p with
    | sub logic column operator query =>
        obtain rfl := Option.some.inj hsub
        exact hp
    | compare | among | between | null => cases hsub
  · intro hall p hp
    cases p with
    | compare logic column operator value => exact h.checked _ hp operator rfl
    | sub logic column operator query => exact hall operator ((hmem operator).mpr ⟨_, hp, rfl⟩)
    | among | between | null => trivial

end Operated

namespace Query

/-- A statement with the predicates of a query. -/
def Compiles (q : Query) (sql : Sql) : Prop :=
  q.selectSql = .ok sql ∨ q.deleteSql = .ok sql ∨
    ∃ naming p values, q.updateSql naming p = .ok (sql, values)

theorem exists_phrase_of_mem {parts : List Sql} {s : Sql} (h : s ∈ parts) :
    ∃ before after, Sql.phrase parts = before ++ s ++ after :=
  Text.exists_joinPieces_of_mem h

/-- Each predicate that can be written stands in the statements. -/
theorem Compiles.exists_body {q : Query} {sql : Sql} (h : q.Compiles sql) {p : Predicate}
    (hp : p ∈ q.wheres) (hwritten : p.isWritten) :
    ∃ body before after, p.body = .ok body ∧ sql = before ++ body ++ after := by
  have hmem := List.mem_filter.mpr ⟨hp, hwritten⟩
  rcases h with h | h | ⟨naming, payload, values, h⟩
  · obtain ⟨-, -, joins, conds, -, hconds, rfl⟩ := selectSql_eq_ok.mp h
    obtain ⟨body, hbody, hcond⟩ := (wheresSql_eq_ok.mp hconds).exists_mem hmem
    obtain ⟨before, after, hfilter⟩ := Sql.exists_filter_of_mem hcond
    obtain ⟨before', after', hphrase⟩ := exists_phrase_of_mem
      (show Sql.filter conds ∈ [Sql.selection q.distinct q.columns, Sql.source q.table,
        Sql.phrase joins, Sql.filter conds, Sql.order q.orderColumns q.direction,
        Sql.page q.limit q.offset] by simp)
    refine ⟨body, before' ++ .word "where " :: before, after ++ after', hbody, hphrase.trans ?_⟩
    simp [hfilter]
  · obtain ⟨bare, clause, -, hclause, rfl⟩ := deleteSql_iff_clause.mp h
    exact hclause.exists_body_after hmem bare
  · obtain ⟨bare, clause, -, hclause, rfl⟩ := updateSql_iff_clause.mp h
    exact hclause.exists_body_after hmem bare

theorem operator_mem_of_compiles {q : Query} {sql : Sql} (h : q.Compiles sql) {logic : Logic}
    {column operator : String} {sub : Query} (hp : .sub logic column operator sub ∈ q.wheres) :
    .operator operator ∈ sql := by
  obtain ⟨body, before, after, hbody, rfl⟩ := h.exists_body hp rfl
  obtain ⟨select, -, rfl⟩ := Predicate.sub_body_eq_ok.mp hbody
  simp

theorem wheres_prefix_apply (q : Query) {s : Step} (h : s.isReset = false) :
    q.wheres <+: (q.apply s).wheres := by
  cases s with
  | reset => cases h
  | compare logic column operator value =>
      simp only [apply, compare]
      split
      · simp
      · exact List.prefix_append _ _
  | among | null => exact List.prefix_append _ _
  | between logic column first last negated =>
      simp only [apply, between]
      split
      · exact List.prefix_append _ _
      · simp
  | sub logic column operator steps =>
      simp only [apply, compareSub]
      split
      · simp
      · exact List.prefix_append _ _
  | join kind table steps =>
      simp only [apply, addJoin]
      split <;> split <;> simp
  | take rows =>
      simp only [apply, take]
      split <;> exact List.prefix_rfl
  | _ => exact List.prefix_rfl

theorem wheres_prefix_run (q : Query) {steps : List Step} (h : steps.all (!·.isReset)) :
    q.wheres <+: (q.run steps).wheres := by
  induction steps generalizing q with
  | nil => exact List.prefix_rfl
  | cons s ss ih =>
      rw [List.all_cons, Bool.and_eq_true, Bool.not_eq_true'] at h
      exact (q.wheres_prefix_apply h.1).trans (ih (q.apply s) h.2)

end Query

/-! ## Calls and their operators -/

/-- What becomes of the operators that are given to the calls that build a query. -/
structure VetsOperators (d : Dialect) (steps : List Step) (q : Query) : Prop where
  /-- A query fails if one of its calls cannot be followed, in a closure too. -/
  failure : q.failure = Step.causeOf? d none steps
  /-- Comparisons with values have operators of the dialect. -/
  checked : ∀ p ∈ q.held, ∀ op, p.valueOperator? = some op → op ∈ d.operators
  /-- Comparisons with sub queries have the operators that are given, each once. -/
  given : q.held.filterMap Predicate.subOperator? ~ Step.givenAll d [] steps
  /-- All operators are accepted if those given with sub queries are. -/
  whitelisted : (∀ p ∈ q.held, p.IsWhitelisted d) ↔
    ∀ op ∈ Step.givenAll d [] steps, d.AcceptsSub op
  /-- A comparison with a value by another operator adds nothing, and no statement is compiled
  after it. -/
  refused : ∀ logic column op value, op ≠ "" → op ∉ d.operators →
    q.apply (.compare logic column op value) = q.fail (.invalidOperator op) ∧
    ∀ later : List Step, later.all (!·.isReset) →
      ((q.apply (.compare logic column op value)).run later).Refuses
        (q.failure.getD (.invalidOperator op))
  /-- A comparison with a sub query is added whatever its operator is, which stands in the
  statements as it is given. -/
  taken : ∀ logic column op closure, Step.causeOf? d none closure = none →
    (q.apply (.sub logic column op closure)).failure = q.failure ∧
    ∀ later : List Step, later.all (!·.isReset) →
      .sub logic column (Query.givenOperator op) (.run (.empty d) closure) ∈
        ((q.apply (.sub logic column op closure)).run later).wheres ∧
      ∀ sql, ((q.apply (.sub logic column op closure)).run later).Compiles sql →
        .operator (Query.givenOperator op) ∈ sql

/-- A query holds comparisons with values by checked operators only, and comparisons with sub
queries by any. -/
theorem vetsOperators (d : Dialect) (steps : List Step) :
    VetsOperators d steps (Query.run (.empty d) steps) := by
  have hoperated := (Operated.empty d).run rfl steps
  have hdialect : (Query.run (.empty d) steps).dialect = d := Query.run_dialect _ _
  generalize hq : Query.run (.empty d) steps = q at hoperated hdialect
  refine ⟨hq ▸ Query.failure_run _ steps, hoperated.checked, hoperated.given,
    hoperated.whitelisted_iff, ?_, ?_⟩
  · intro logic column op value hne hop
    have hfail : q.apply (.compare logic column op value) = q.fail (.invalidOperator op) := by
      rw [Query.apply, Query.compare, hdialect, Dialect.operator_eq_error hne hop]
    refine ⟨hfail, fun later hlater => Query.refuses_of_failed ?_⟩
    refine Query.failure_run_of_failed ?_ hlater
    rw [hfail, Query.failure_fail]
    cases q.failure <;> rfl
  · intro logic column op closure hcause
    have hsub : (Query.run (.empty d) closure).failure = none :=
      (Query.failure_run _ closure).trans hcause
    have happly : q.apply (.sub logic column op closure) =
        q.compareSub logic column op (.run (.empty d) closure) := by
      rw [Query.apply, hdialect]
    rw [happly]
    refine ⟨by rw [Query.failure_compareSub, hsub, Option.or_none], fun later hlater => ?_⟩
    have hmem : .sub logic column (Query.givenOperator op) (.run (.empty d) closure) ∈
        ((q.compareSub logic column op (.run (.empty d) closure)).run later).wheres := by
      refine (Query.wheres_prefix_run _ hlater).subset ?_
      rw [Query.compareSub, hsub]
      simp
    exact ⟨hmem, fun sql hsql => Query.operator_mem_of_compiles hsql hmem⟩

/-- Users compared with a sub query by an operator that no dialect has. -/
def unlistedCalls : List Step :=
  [.table "users", .sub .and "id" "~~bogus~~" [.table "posts"]]

theorem not_whitelisted_unlisted :
    (Query.run (.empty .mysql) unlistedCalls).deleteSql =
      .ok [.word "delete from ", .name "users", .word " ", .word "where ", .name "id", .word " ",
        .operator "~~bogus~~", .word " (", .word "select ", .word "*", .word " ", .word "from ",
        .name "posts", .word ")"] ∧
    ¬ ∀ p ∈ (Query.run (.empty .mysql) unlistedCalls).held, p.IsWhitelisted .mysql := by
  refine ⟨rfl, fun hall => ?_⟩
  have haccepts := (vetsOperators .mysql unlistedCalls).whitelisted.mp hall "~~bogus~~" (by decide)
  revert haccepts
  unfold Dialect.AcceptsSub
  decide

end SqlMapping
