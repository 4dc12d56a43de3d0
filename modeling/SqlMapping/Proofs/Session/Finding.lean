import SqlMapping.Proofs.Query.Accounting
import SqlMapping.Proofs.Query.Equations
import SqlMapping.Proofs.Query.Failing
import SqlMapping.Proofs.Session.Compiled

/-! # Finding a record

A record is found by a text that is put together on its own. It is the text of the select that has
the key as its only predicate, and the value of the key is all that is bound for this select. -/

namespace SqlMapping

namespace Query

variable {q : Query} {d : Dialect} {steps : List Step}

/-! ## Queries of a table and its columns -/

/-- Values are bound for joins and for predicates only where there are some. -/
structure Backed (q : Query) : Prop where
  joins : q.joins = [] → q.binding.clauseValues .join = []
  wheres : q.wheres = [] → q.binding.clauseValues .filter = []

theorem Backed.keeps (d : Dialect) :
    Keeps d (fun q _ => q.Backed) (fun q _ => q.Backed) fun j _ => j.query.Backed where
  empty := ⟨fun _ => rfl, fun _ => rfl⟩
  congr h hbinding hjoins hwheres := by
    refine ⟨?_, ?_⟩
    · rw [hbinding, hjoins]
      exact h.joins
    · rw [hbinding, hwheres]
      exact h.wheres
  add h _ := by
    refine ⟨fun hjoins => ?_, fun hwheres => ?_⟩
    · simpa [bind, addWhere] using h.joins hjoins
    · simp [addWhere] at hwheres
  addSub logic column operator h _ hf := by
    simp only [compareSub, hf]
    refine ⟨fun hjoins => ?_, fun hwheres => ?_⟩
    · simpa using h.joins hjoins
    · simp at hwheres
  addJoin {q} _ _ _ h _ hc := by
    obtain ⟨hbinding, hjoins, hwheres⟩ := addJoin_of_not_isEmpty (q := q) hc
    refine ⟨fun hnone => ?_, fun hnone => ?_⟩
    · simp [hjoins] at hnone
    · rw [hwheres] at hnone
      simpa [hbinding] using h.wheres hnone

/-- A query that says nothing but the columns of a table. -/
structure Unrestricted (q : Query) : Prop where
  table : q.table.isEmpty = false
  joins : q.joins = []
  wheres : q.wheres = []
  order : q.orderColumns = []
  limit : q.limit = none
  offset : q.offset = none

theorem Unrestricted.clauseValues_eq_nil (h : (run (.empty d) steps).Unrestricted) (k : Bucket) :
    (run (.empty d) steps).binding.clauseValues k = [] := by
  have hbacked := (Backed.keeps d).run (q := .empty d) (l := {}) (Backed.keeps d).empty rfl steps
  by_cases hjoin : k = .join
  · exact hjoin ▸ hbacked.joins h.joins
  by_cases hfilter : k = .filter
  · exact hfilter ▸ hbacked.wheres h.wheres
  · exact (Accounted.run d steps).others k hjoin hfilter

/-! ## The key as a predicate -/

theorem compare_equal (q : Query) (logic : Logic) (column : String) (v : Value) :
    q.compare logic column "=" v = (q.bind [v]).addWhere (.compare logic column "=" v) := by
  have hoperator : q.dialect.operator "=" = .ok "=" := by cases q.dialect <;> rfl
  rw [compare, hoperator]

theorem body_equal (logic : Logic) (column : String) {v : Value} (hv : v.isBindable)
    (hnull : v.isNull = false) :
    (Predicate.compare logic column "=" v).body =
      .ok (Sql.column column ++ [.word " = ", .mark, .word ""]) := by
  have hmarks : Sql.placeholdersFor v = [.mark] := by
    cases v with
    | list _ | record _ => cases hv
    | null => cases hnull
    | _ => simp [Sql.placeholdersFor, hnull]
  simp [Predicate.body, Predicate.plain, hmarks]

/-- The parts of a select with the key as its predicate, put together, read as the text to find
by it. -/
theorem render_phrase_key (distinct : Bool) (columns : List String) (t : TableRef) (logic : Logic)
    (key : String) (d : Dialect) :
    Sql.render d (Sql.phrase
      [Sql.selection distinct columns, Sql.source t, [],
        Sql.filter [(logic, Sql.column key ++ [.word " = ", .mark, .word ""])], [], []]) =
      (Sql.find distinct columns t key).render d := by
  have hselection : Sql.selection distinct columns ≠ [] := by simp [Sql.selection]
  rw [Sql.phrase, Text.joinPieces_cons hselection]
  simp [Sql.render, Sql.chars, Sql.source, Sql.filter, Sql.find, Token.text]

/-- The select with a key writes what is written to find by it. -/
theorem Unrestricted.selectSql_compare (h : q.Unrestricted) (hfailure : q.failure = none)
    (logic : Logic) (key : String) {v : Value} (hv : v.isBindable) (hnull : v.isNull = false) :
    ∃ sql, (q.compare logic key "=" v).selectSql = .ok sql ∧
      ∀ d', sql.render d' = (Sql.find q.distinct q.columns q.table key).render d' := by
  have hwheres : wheresSql [Predicate.compare logic key "=" v] =
      .ok [(logic, Sql.column key ++ [.word " = ", .mark, .word ""])] :=
    wheresSql_cons_eq_ok.mpr ⟨_, [], body_equal logic key hv hnull, rfl, by simp [Predicate.logic]⟩
  refine ⟨_, selectSql_eq_ok.mpr ?_, render_phrase_key q.distinct q.columns q.table logic key⟩
  rw [compare_equal]
  refine ⟨hfailure, h.table, [], _, congrArg joinsSql h.joins,
    (congrArg (fun ps => wheresSql (ps ++ _)) h.wheres).trans hwheres, ?_⟩
  have horder : Sql.order q.orderColumns q.direction = [] := by
    rw [h.order]
    rfl
  have hpage : Sql.page q.limit q.offset = [] := by
    rw [h.limit, h.offset]
    rfl
  exact congrArg₂ (fun order page => Sql.phrase [_, _, _, _, order, page]) horder hpage

/-- If nothing else is bound, the value of the key is all that is. -/
theorem values_compare_equal (h : ∀ k, q.binding.clauseValues k = []) (logic : Logic) (key : String)
    {v : Value} (hv : v.isBindable) (hnull : v.isNull = false) :
    (q.compare logic key "=" v).values = [v] := by
  have hbound : v.bound = [v] := by
    simp [Value.bound_of_isBindable hv, Value.present, hnull]
  rw [compare_equal, values, Binding.values_eq]
  simp [bind, addWhere, h, hbound, Bucket.all]

end Query

namespace Session

/-- Finding a record agrees with a select. A query of a table and its columns binds the value of the
key alone when the key is compared; unless one of its calls failed it then selects by the text to
find by, and otherwise it reports the failure. A session that finds by the key does the same. -/
theorem find_agrees_select {d : Dialect} {steps : List Step} {q : Query}
    (hrun : q = Query.run (.empty d) steps) (hq : q.Unrestricted) (logic : Logic) (key : String)
    (v : Value) (hv : v.isBindable) (hnull : v.isNull = false) :
    (q.compare logic key "=" v).values = [v] ∧
      (q.failure = none → ∃ sql, (q.compare logic key "=" v).selectSql = .ok sql ∧
        ∀ d', sql.render d' = (Sql.find q.distinct q.columns q.table key).render d') ∧
      (∀ c, q.failure = some c → (q.compare logic key "=" v).selectSql = .fail c) ∧
      ∀ s : Session, s.query = q → key ≠ "" →
        s.compiled (.findRecord v key q.columns) = some (s.worded
          ((q.compare logic key "=" v).selectSql.map fun sql =>
            (sql, (q.compare logic key "=" v).values))) := by
  have hvalues : (q.compare logic key "=" v).values = [v] := by
    subst hrun
    exact Query.values_compare_equal hq.clauseValues_eq_nil logic key hv hnull
  have hfailed : ∀ c, q.failure = some c → (q.compare logic key "=" v).selectSql = .fail c := by
    intro c hc
    refine (Query.refuses_of_failed ?_).select
    rw [Query.compare_equal]
    exact hc
  refine ⟨hvalues, fun h => hq.selectSql_compare h logic key hv hnull, hfailed, fun s hs hkey => ?_⟩
  rw [hvalues, compiled, hs]
  cases hfailure : q.failure with
  | some c =>
      rw [hfailed c hfailure, Query.check, hfailure]
      rfl
  | none =>
      obtain ⟨sql, hselect, htext⟩ := hq.selectSql_compare hfailure logic key hv hnull
      have htext : s.text (Sql.find q.distinct q.columns q.table key) = s.text sql :=
        (htext _).symm
      have hempty : key.isEmpty = false := by simpa using hkey
      rw [hselect, Query.check, hfailure, hq.table, hempty, htext]
      rfl

/-- Calls for a query of two columns, one of which looks like a connective. -/
def selectingUsers : List Step :=
  [.select ["u.id", "and b as c"], .distinct, .table "users as u"]

theorem find_agrees_selectingUsers :
    let q := Query.run (.empty .mysql) selectingUsers
    q.Unrestricted ∧ Value.isBindable (.text (some "7")) ∧ Value.isNull (.text (some "7")) = false ∧
      (q.compare .or "or u.id" "=" (.text (some "7"))).values = [.text (some "7")] ∧
      ∃ sql, (q.compare .or "or u.id" "=" (.text (some "7"))).selectSql = .ok sql ∧
        sql.render .mysql = "select distinct \x60u\x60.\x60id\x60,\x60and b\x60 as \x60c\x60 " ++
          "from \x60users\x60 as \x60u\x60 where \x60or u\x60.\x60id\x60 = ?" := by
  intro q
  have hq : q.Unrestricted := ⟨by decide +kernel, rfl, rfl, rfl, rfl, rfl⟩
  obtain ⟨hvalues, hselect, -⟩ :=
    find_agrees_select rfl hq .or "or u.id" (.text (some "7")) rfl rfl
  obtain ⟨sql, hsql, htext⟩ := hselect rfl
  refine ⟨hq, rfl, rfl, hvalues, sql, hsql, (htext .mysql).trans ?_⟩
  decide +kernel

/-- Calls of which one could not be followed. -/
def doubtingUsers : List Step :=
  [.table "users", .compare .and "name" "~~bogus~~" (.text (some "ann"))]

/-- After it there is a text to find by, but no select. -/
theorem find_disagrees_doubtingUsers :
    let q := Query.run (.empty .mysql) doubtingUsers
    q.Unrestricted ∧
      (Sql.find q.distinct q.columns q.table "id").render .mysql =
        "select * from \x60users\x60 where \x60id\x60 = ?" ∧
      ¬ ∃ sql, (q.compare .and "id" "=" (.text (some "7"))).selectSql = .ok sql ∧
        sql.render .mysql = (Sql.find q.distinct q.columns q.table "id").render .mysql := by
  intro q
  refine ⟨⟨by decide +kernel, rfl, rfl, rfl, rfl, rfl⟩, by decide +kernel, ?_⟩
  rintro ⟨sql, hsql, -⟩
  cases hsql

end Session

end SqlMapping
