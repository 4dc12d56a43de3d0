import SqlMapping.Proofs.Attempt
import SqlMapping.Proofs.Text.Pieces
import SqlMapping.Query.Compile

/-! # Equations of compiled queries -/

namespace SqlMapping

theorem requireTable_eq_ok {failure : Option Cause} {t : TableRef} {u : Unit} :
    requireTable failure t = .ok u ↔ failure = none ∧ t.isEmpty = false := by
  unfold requireTable
  cases failure with
  | some c => simp [Result.fail]
  | none => cases h : t.isEmpty <;> simp [Result.fail]

theorem Query.check_eq_ok {q : Query} {u : Unit} : q.check = .ok u ↔ q.failure = none := by
  unfold check
  cases q.failure <;> simp [Result.fail]

/-! ## Joins and predicates -/

theorem joinsSql_cons_eq_ok {j : Join} {js : List Join} {sqls : List Sql} :
    joinsSql (j :: js) = .ok sqls ↔
      ∃ first rest, j.sql = .ok first ∧ joinsSql js = .ok rest ∧ first :: rest = sqls := by
  simp [joinsSql, Result.bind_eq_ok, pure, Except.pure]

theorem wheresSql_cons_eq_ok {p : Predicate} {ps : List Predicate} {conds : List (Logic × Sql)} :
    wheresSql (p :: ps) = .ok conds ↔
      ∃ first rest, p.body = .ok first ∧ wheresSql ps = .ok rest ∧
        (if first.isEmpty then rest else (p.logic, first) :: rest) = conds := by
  simp [wheresSql, Result.bind_eq_ok, pure, Except.pure]

theorem Join.sql_eq_ok {j : Join} {sql : Sql} :
    j.sql = .ok sql ↔
      ∃ wheres, wheresSql j.query.wheres = .ok wheres ∧
        Sql.joined j.kind j.table j.conditions wheres = sql := by
  obtain ⟨kind, table, on, ⟨⟩⟩ := j
  simp [Join.sql, Query.wheresOf, Result.bind_eq_ok, pure, Except.pure]

theorem Predicate.sub_body_eq_ok {logic : Logic} {column operator : String} {query : Query}
    {sql : Sql} :
    (Predicate.sub logic column operator query).body = .ok sql ↔
      ∃ select, query.selectSql = .ok select ∧
        Sql.column column ++
          .word " " :: .operator operator :: .word " (" :: select ++ [.word ")"] = sql := by
  simp [Predicate.body, Result.bind_eq_ok, pure, Except.pure]

/-! ## Statements -/

theorem Query.selectSql_eq_ok {q : Query} {sql : Sql} :
    q.selectSql = .ok sql ↔
      q.failure = none ∧ q.table.isEmpty = false ∧
        ∃ joins wheres, joinsSql q.joins = .ok joins ∧ wheresSql q.wheres = .ok wheres ∧
          Sql.phrase
            [Sql.selection q.distinct q.columns, Sql.source q.table, Sql.phrase joins,
              Sql.filter wheres, Sql.order q.orderColumns q.direction,
              Sql.page q.limit q.offset] = sql := by
  cases q
  simp [Query.selectSql, Result.bind_eq_ok, requireTable_eq_ok, pure, Except.pure, and_assoc]

theorem Query.deleteSql_eq_ok {q : Query} {sql : Sql} :
    q.deleteSql = .ok sql ↔
      q.failure = none ∧ q.table.isEmpty = false ∧
        ∃ wheres, wheresSql q.wheres = .ok wheres ∧
          (.word "delete from " :: Sql.table q.table.name ++
            if (Sql.filter wheres).isEmpty then [] else .word " " :: Sql.filter wheres) = sql := by
  simp only [Query.deleteSql, Query.filterSql, Result.bind_eq_ok, Result.map_eq_ok,
    requireTable_eq_ok]
  constructor
  · rintro ⟨_, ⟨hfailure, htable⟩, _, ⟨wheres, hwheres, rfl⟩, hsql⟩
    exact ⟨hfailure, htable, wheres, hwheres, Except.ok.inj hsql⟩
  · rintro ⟨hfailure, htable, wheres, hwheres, rfl⟩
    exact ⟨(), ⟨hfailure, htable⟩, _, ⟨wheres, hwheres, rfl⟩, rfl⟩

/-! ## Conditions that continue a clause -/

namespace Sql

/-- Conditions after a clause that has begun, each with its connective. -/
def continued (cs : List (Logic × Sql)) : Sql :=
  cs.flatMap fun c => .word " " :: .word (c.1.word ++ " ") :: c.2

theorem conditions_cons (c : Logic × Sql) (cs : List (Logic × Sql)) :
    conditions (c :: cs) = .word (c.1.word ++ " ") :: c.2 ++ continued cs := by
  have hfull : (cs.map fun c : Logic × Sql => Token.word (c.1.word ++ " ") :: c.2).filter
      (!·.isEmpty) = cs.map fun c => Token.word (c.1.word ++ " ") :: c.2 := by
    rw [List.filter_eq_self]
    intro s hs
    obtain ⟨c, -, rfl⟩ := List.mem_map.mp hs
    rfl
  change Text.joinPieces _ ((Token.word (c.1.word ++ " ") :: c.2) ::
    cs.map fun c => Token.word (c.1.word ++ " ") :: c.2) = _
  rw [Text.joinPieces_cons (by simp), hfull, List.flatMap_map]
  rfl

theorem blank_conditions {cs : List (Logic × Sql)} :
    (if cs.isEmpty then [] else .word " " :: conditions cs) = continued cs := by
  cases cs with
  | nil => rfl
  | cons c cs => simp [conditions_cons, continued]

theorem filter_cons (c : Logic × Sql) (cs : List (Logic × Sql)) :
    filter (c :: cs) = .word "where " :: c.2 ++ continued cs := by
  rw [← blank_conditions]
  rfl

theorem joined_eq (kind : JoinKind) (t : TableRef) (on : List JoinCondition)
    (cs : List (Logic × Sql)) :
    joined kind t on cs =
      .word (kind.words ++ " ") :: tableRef t ++ joinConditions on ++ continued cs := by
  rw [← blank_conditions]
  rfl

end Sql

end SqlMapping
