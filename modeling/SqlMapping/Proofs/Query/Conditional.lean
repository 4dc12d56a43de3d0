import SqlMapping.Proofs.Lists
import SqlMapping.Proofs.Query.Updating

/-! # Conditional statements

A delete or an update ends with a clause of those predicates of the query that can be written. What
comes before does not depend on the predicates, and without a predicate that can be written it is
the whole statement.
-/

namespace SqlMapping

/-! ## Predicates that are written -/

/-- Whether a value has a placeholder: a list has one for each item that is neither a list nor a
record. -/
def Value.isWritable : Value → Bool
  | list items => items.any isBindable
  | v => Query.isBound v

/-- Whether a predicate is written, or left out for want of a value to compare with. -/
def Predicate.isWritten : Predicate → Bool
  | compare _ _ _ value => value.isWritable
  | among _ _ values _ => (Value.list values).isWritable
  | between .. | null .. | sub .. => true

theorem Sql.placeholders_eq_nil {n : Nat} : placeholders n = [] ↔ n = 0 := by
  cases n with
  | zero => exact iff_of_true rfl rfl
  | succ n => simp [placeholders, List.replicate_succ, Text.joinPieces_cons]

theorem Sql.placeholdersFor_eq_nil {v : Value} :
    placeholdersFor v = [] ↔ v.isWritable = false := by
  cases v with
  | list items =>
      rw [placeholdersFor, placeholders_eq_nil, List.countP_eq_zero, Value.isWritable,
        List.any_eq_false]
  | record entries => simp [placeholdersFor, Value.isWritable, Query.isBound, Value.isBindable]
  | _ => simp [placeholdersFor, Value.isWritable, Query.isBound, Value.isBindable]

theorem Predicate.plain_eq_nil {column before after : String} {marks : Sql} :
    plain column before marks after = [] ↔ marks = [] := by
  cases marks <;> simp [plain]

/-- The body of a predicate is empty if the predicate is left out. -/
theorem Predicate.body_eq_nil {p : Predicate} {sql : Sql} (h : p.body = .ok sql) :
    sql = [] ↔ p.isWritten = false := by
  cases p with
  | compare logic column operator value =>
      obtain rfl := Except.ok.inj h
      rw [plain_eq_nil, Sql.placeholdersFor_eq_nil, isWritten]
  | among logic column values negated =>
      obtain rfl := Except.ok.inj h
      rw [plain_eq_nil, Sql.placeholdersFor_eq_nil, isWritten]
  | between logic column negated =>
      obtain rfl := Except.ok.inj h
      simp [isWritten]
  | null logic column negated =>
      obtain rfl := Except.ok.inj h
      simp [isWritten]
  | sub logic column operator query =>
      obtain ⟨select, -, rfl⟩ := Predicate.sub_body_eq_ok.mp h
      simp [isWritten]

theorem Predicate.body_ne_nil {p : Predicate} {sql : Sql} (h : p.body = .ok sql)
    (hp : p.isWritten) : sql ≠ [] := by
  intro hnil
  rw [(body_eq_nil h).mp hnil] at hp
  cases hp

theorem Predicate.body_of_not_isWritten {p : Predicate} (h : p.isWritten = false) :
    p.body = .ok [] := by
  cases p with
  | compare logic column operator value =>
      exact congrArg Except.ok (plain_eq_nil.mpr (Sql.placeholdersFor_eq_nil.mpr h))
  | among logic column values negated =>
      exact congrArg Except.ok (plain_eq_nil.mpr (Sql.placeholdersFor_eq_nil.mpr h))
  | between | null | sub => cases h

/-- The conditions that predicates are written as, each with its connective. -/
abbrev WrittenAs (ps : List Predicate) (conds : List (Logic × Sql)) : Prop :=
  List.Forall₂ (fun p c => c.1 = p.logic ∧ p.body = .ok c.2) ps conds

theorem WrittenAs.exists_mem {ps : List Predicate} {conds : List (Logic × Sql)}
    (h : WrittenAs ps conds) {p : Predicate} (hp : p ∈ ps) :
    ∃ body, p.body = .ok body ∧ (p.logic, body) ∈ conds := by
  obtain ⟨⟨logic, body⟩, hmem, rfl, hbody⟩ := exists_right_of_mem h hp
  exact ⟨body, hbody, hmem⟩

/-- The predicates that can be written are, one by one, and the others are left out. -/
theorem wheresSql_eq_ok {ps : List Predicate} {conds : List (Logic × Sql)} :
    wheresSql ps = .ok conds ↔ WrittenAs (ps.filter Predicate.isWritten) conds := by
  induction ps generalizing conds with
  | nil => simp [wheresSql, eq_comm]
  | cons p ps ih =>
      rw [wheresSql_cons_eq_ok]
      cases hp : p.isWritten with
      | false =>
          rw [List.filter_cons_of_neg (by simp [hp]), ← ih, Predicate.body_of_not_isWritten hp]
          constructor
          · rintro ⟨_, rest, ⟨⟩, hrest, rfl⟩
            exact hrest
          · exact fun h => ⟨[], conds, rfl, h, rfl⟩
      | true =>
          rw [List.filter_cons_of_pos hp]
          constructor
          · rintro ⟨first, rest, hfirst, hrest, rfl⟩
            rw [if_neg (by simpa using Predicate.body_ne_nil hfirst hp)]
            exact .cons ⟨rfl, hfirst⟩ (ih.mp hrest)
          · rintro (_ | @⟨_, ⟨_, first⟩, _, rest, ⟨rfl, hfirst⟩, hrest⟩)
            refine ⟨first, rest, hfirst, ih.mpr hrest, ?_⟩
            rw [if_neg (by simpa using Predicate.body_ne_nil hfirst hp)]

/-! ## The clause at the end of a statement -/

/-- What predicates add to the end of a statement: a clause of all of them, or nothing when there
are none. -/
inductive IsClause : List Predicate → Sql → Prop where
  | none : IsClause [] []
  | some {p : Predicate} {ps : List Predicate} {first : Sql} {rest : List (Logic × Sql)}
      (hfirst : p.body = .ok first) (hrest : WrittenAs ps rest) :
      IsClause (p :: ps) (.word " " :: .word "where " :: first ++ Sql.continued rest)

/-- The end of a statement with conditions. -/
def Sql.clause (conds : List (Logic × Sql)) : Sql :=
  if (filter conds).isEmpty then [] else .word " " :: filter conds

theorem Sql.exists_filter_of_mem {conds : List (Logic × Sql)} {logic : Logic} {body : Sql}
    (h : (logic, body) ∈ conds) :
    ∃ before after, filter conds = .word "where " :: (before ++ body ++ after) := by
  cases conds with
  | nil => cases h
  | cons c conds =>
      rw [filter_cons]
      rcases List.mem_cons.mp h with rfl | h
      · exact ⟨[], continued conds, rfl⟩
      · obtain ⟨before, after, rfl⟩ := List.append_of_mem h
        refine ⟨c.2 ++ continued before ++ [.word " ", .word (logic.word ++ " ")],
          continued after, ?_⟩
        simp [continued]

theorem isClause_iff {ps : List Predicate} {clause : Sql} :
    IsClause ps clause ↔ ∃ conds, WrittenAs ps conds ∧ Sql.clause conds = clause := by
  constructor
  · rintro (_ | ⟨hfirst, hrest⟩)
    · exact ⟨[], .nil, rfl⟩
    · rename_i p ps first rest
      refine ⟨(p.logic, first) :: rest, .cons ⟨rfl, hfirst⟩ hrest, ?_⟩
      simp [Sql.clause, Sql.filter_cons]
  · rintro ⟨_, ⟨⟩ | ⟨⟨-, hfirst⟩, hrest⟩, rfl⟩
    · exact .none
    · simpa [Sql.clause, Sql.filter_cons] using IsClause.some hfirst hrest

theorem IsClause.eq_nil_iff {ps : List Predicate} {clause : Sql} (h : IsClause ps clause) :
    clause = [] ↔ ps = [] := by
  cases h <;> simp

/-- A clause has the body of each of its predicates. -/
theorem IsClause.exists_body {ps : List Predicate} {clause : Sql} (h : IsClause ps clause)
    {p : Predicate} (hp : p ∈ ps) :
    ∃ body before after, p.body = .ok body ∧
      clause = .word " " :: .word "where " :: (before ++ body ++ after) := by
  obtain ⟨conds, hwritten, rfl⟩ := isClause_iff.mp h
  obtain ⟨body, hbody, hmem⟩ := hwritten.exists_mem hp
  obtain ⟨before, after, hfilter⟩ := Sql.exists_filter_of_mem hmem
  exact ⟨body, before, after, hbody, by simp [Sql.clause, hfilter]⟩

/-- A statement with a clause has the body of each of its predicates. -/
theorem IsClause.exists_body_after {ps : List Predicate} {clause : Sql} (h : IsClause ps clause)
    {p : Predicate} (hp : p ∈ ps) (bare : Sql) :
    ∃ body before after, p.body = .ok body ∧ bare ++ clause = before ++ body ++ after := by
  obtain ⟨body, before, after, hbody, rfl⟩ := h.exists_body hp
  exact ⟨body, bare ++ .word " " :: .word "where " :: before, after, hbody, by simp⟩

/-! ## Statements -/

namespace Query

variable {q : Query} {naming : Naming} {p : Payload} {sql : Sql} {values : List Value}

/-- A query without its predicates. -/
def unconditioned (q : Query) : Query :=
  { q with wheres := [] }

theorem ofPayload_unconditioned :
    Assignments.ofPayload naming q.unconditioned p = Assignments.ofPayload naming q p := by
  cases p <;> rfl

theorem deleteSql_iff_clause :
    q.deleteSql = .ok sql ↔
      ∃ bare clause, q.unconditioned.deleteSql = .ok bare ∧
        IsClause (q.wheres.filter Predicate.isWritten) clause ∧ bare ++ clause = sql := by
  simp only [deleteSql_eq_ok, isClause_iff, wheresSql_eq_ok]
  constructor
  · rintro ⟨hfailure, htable, conds, hconds, rfl⟩
    exact ⟨_, _, ⟨hfailure, htable, [], .nil, rfl⟩, ⟨conds, hconds, rfl⟩,
      by simp [unconditioned, Sql.filter, Sql.clause]⟩
  · rintro ⟨_, _, ⟨hfailure, htable, _, ⟨⟩, rfl⟩, ⟨conds, hconds, rfl⟩, rfl⟩
    exact ⟨hfailure, htable, conds, hconds, by simp [unconditioned, Sql.filter, Sql.clause]⟩

theorem updateSql_iff_clause :
    q.updateSql naming p = .ok (sql, values) ↔
      ∃ bare clause, q.unconditioned.updateSql naming p = .ok (bare, values) ∧
        IsClause (q.wheres.filter Predicate.isWritten) clause ∧ bare ++ clause = sql := by
  simp only [updateSql_eq_ok, isClause_iff, wheresSql_eq_ok, ofPayload_unconditioned]
  constructor
  · rintro ⟨hfailure, a, ha, htable, joins, conds, hjoins, hconds, rfl, rfl⟩
    exact ⟨_, _, ⟨hfailure, a, ha, htable, joins, [], hjoins, .nil, rfl, rfl⟩,
      ⟨conds, hconds, rfl⟩, by simp [Sql.filter, Sql.clause]⟩
  · rintro ⟨_, _, ⟨hfailure, a, ha, htable, joins, _, hjoins, ⟨⟩, rfl, rfl⟩,
      ⟨conds, hconds, rfl⟩, rfl⟩
    exact ⟨hfailure, a, ha, htable, joins, conds, hjoins, hconds,
      by simp [Sql.filter, Sql.clause], rfl⟩

/-- A delete or an update is the one without predicates, followed by a clause of those predicates
that can be written. It has no clause if none can be. -/
theorem conditional_statements (q : Query) :
    (∀ sql, q.deleteSql = .ok sql ↔
      ∃ bare clause, q.unconditioned.deleteSql = .ok bare ∧
        IsClause (q.wheres.filter Predicate.isWritten) clause ∧ bare ++ clause = sql) ∧
    (∀ naming p sql values, q.updateSql naming p = .ok (sql, values) ↔
      ∃ bare clause, q.unconditioned.updateSql naming p = .ok (bare, values) ∧
        IsClause (q.wheres.filter Predicate.isWritten) clause ∧ bare ++ clause = sql) ∧
    ∀ clause, IsClause (q.wheres.filter Predicate.isWritten) clause →
      (clause = [] ↔ ∀ p ∈ q.wheres, p.isWritten = false) ∧
      ∀ p ∈ q.wheres, p.isWritten → ∃ body before after, p.body = .ok body ∧ body ≠ [] ∧
        clause = .word " " :: .word "where " :: (before ++ body ++ after) := by
  refine ⟨fun _ => deleteSql_iff_clause, fun _ _ _ _ => updateSql_iff_clause,
    fun clause hclause => ⟨?_, fun p hp hwritten => ?_⟩⟩
  · rw [hclause.eq_nil_iff, List.filter_eq_nil_iff]
    simp only [Bool.not_eq_true]
  · obtain ⟨body, before, after, hbody, heq⟩ :=
      hclause.exists_body (List.mem_filter.mpr ⟨hp, hwritten⟩)
    exact ⟨body, before, after, hbody, Predicate.body_ne_nil hbody hwritten, heq⟩

/-- The users among none. -/
def noUsers : Query :=
  run (.empty .mysql) [.table "users", .among .and "id" [] false]

theorem deleteSql_noUsers : noUsers.deleteSql = .ok [.word "delete from ", .name "users"] := by
  rfl

theorem conditional_statements_noUsers :
    ∃ bare clause, noUsers.unconditioned.deleteSql = .ok bare ∧
      IsClause (noUsers.wheres.filter Predicate.isWritten) clause ∧
      (clause = [] ↔ ∀ p ∈ noUsers.wheres, p.isWritten = false) ∧
      bare ++ clause = [.word "delete from ", .name "users"] := by
  obtain ⟨hdelete, -, hclause⟩ := conditional_statements noUsers
  obtain ⟨bare, clause, hbare, his, heq⟩ := (hdelete _).mp deleteSql_noUsers
  exact ⟨bare, clause, hbare, his, (hclause clause his).1, heq⟩

theorem not_always_conditional :
    ¬ ∀ (q : Query) (sql : Sql), q.wheres ≠ [] → q.deleteSql = .ok sql → .word "where " ∈ sql := by
  intro h
  have hwheres : noUsers.wheres ≠ [] := by simp [noUsers, run, apply, among, addWhere]
  exact absurd (h noUsers _ hwheres deleteSql_noUsers) (by decide)

end Query

end SqlMapping
