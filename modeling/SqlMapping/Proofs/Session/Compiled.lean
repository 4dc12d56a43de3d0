import SqlMapping.Proofs.Session.Loading
import SqlMapping.Session.Operation

/-! # Operations that run a statement

Such an operation compiles one statement first. If that fails it reports the failure and the backend
is asked nothing; otherwise it runs the statement, and nothing else. -/

namespace SqlMapping

open Session

variable {σ : Type}

/-- The failure of a result, if it is one. -/
def Result.failure? {α : Type} : Result α → Option Failure
  | .error e => some e
  | .ok _ => none

def Outcome.failure? : Outcome → Option Failure
  | .nothing => none
  | .loaded r _ => r.failure?
  | .objects r => r.failure?
  | .record r => r.failure?
  | .records r => r.failure?
  | .affected r => r.failure?
  | .count r => r.failure?
  | .text r => r.failure?
  | .done r => r.failure?

/-- The same desk with another query in the making. -/
def Desk.withQuery (q : Query) (d : Desk σ) : Desk σ :=
  { d with session := { d.session with query := q } }

@[simp] theorem Desk.withQuery_withQuery (q q' : Query) (d : Desk σ) :
    (d.withQuery q).withQuery q' = d.withQuery q' :=
  rfl

/-- The statement of a plan as a text with its values. -/
def Plan.compiled (plan : Result Plan) (statement : Plan → Result (Sql × List Value)) :
    Result (String × List Value) := do
  let p ← plan
  let (sql, values) ← statement p
  return (sql.render p.query.dialect, values)

/-- Operations that begin or end transactions. -/
def Operation.controls : Operation → Bool
  | begin _ | commit | rollback | close => true
  | _ => false

namespace Session

def worded (s : Session) (r : Result (Sql × List Value)) : Result (String × List Value) := do
  let (sql, values) ← r
  return (s.text sql, values)

/-- The text and the values of the statement that an operation runs, or the failure to compile it;
nothing for an operation that runs none. -/
def compiled (s : Session) : Operation → Option (Result (String × List Value))
  | .find id o columns =>
    some (Plan.compiled (s.planFor none columns o).1 fun p =>
      .ok (Sql.find p.query.distinct p.columns p.mapping.table p.mapping.qualifiedKey, [id]))
  | .first o columns =>
    some (Plan.compiled (s.planFor (some s.query.aliases) columns o).1 fun p => firstOf p.query)
  | .all fresh columns =>
    some do
      let p ← (s.planFor (some s.query.aliases) columns fresh).1
      let sql ← p.query.selectSql
      return (s.text sql, p.query.values)
  | .findRecord id primaryKey columns =>
    some do
      s.query.check
      if s.query.table.isEmpty then Result.fail .tableMissing
      else if primaryKey.isEmpty then Result.fail .emptyPrimaryKey
      else return (s.text (Sql.find s.query.distinct columns s.query.table primaryKey), [id])
  | .firstRecord => some (s.worded (firstOf s.query))
  | .allRecords =>
    some do
      let sql ← s.query.selectSql
      return (s.text sql, s.query.values)
  | .insert p => some (s.worded (s.query.insertSql s.naming p))
  | .update p => some (s.worded (s.query.updateSql s.naming p))
  | .delete =>
    some (s.worded (s.query.deleteSql.map fun sql => (sql, s.query.binding.deleteValues)))
  | .exec sql values => some (.ok (sql, values))
  | _ => none

/-- A statement run from one state to another. -/
inductive Ran (b : Backend σ) (sql : String) (values : List Value) (d : Desk σ) : Desk σ → Prop
  | query : Ran b sql values d (runQuery b sql values d).2
  | exec : Ran b sql values d (execute b sql values d).2

/-- What becomes of a statement, and the failure reported. Only the query in the making changes
besides. -/
inductive Runs (b : Backend σ) (d : Desk σ) :
    Result (String × List Value) → Option Failure → Desk σ → Prop
  | refused (q : Query) {e : Failure} : Runs b d (.error e) (some e) (d.withQuery q)
  | ran (q q' : Query) {sql : String} {values : List Value} {d' : Desk σ}
      {failure : Option Failure} (h : Ran b sql values (d.withQuery q) d') :
      Runs b d (.ok (sql, values)) failure (d'.withQuery q')

section

variable {α β : Type} {b : Backend σ} {d d' : Desk σ} {compiled : Result (String × List Value)}
  {failure : Option Failure}

theorem Runs.withQuery (q : Query) (h : Runs b d compiled failure d') :
    Runs b d compiled failure (d'.withQuery q) := by
  cases h with
  | refused => exact .refused q
  | ran q' _ h =>
      rw [Desk.withQuery_withQuery]
      exact .ran q' q h

theorem Runs.of_withQuery {q : Query} (h : Runs b (d.withQuery q) compiled failure d') :
    Runs b d compiled failure d' := by
  cases h with
  | refused q' => exact .refused q'
  | ran q' q'' h => exact .ran q' q'' h

theorem Runs.of_error {e : Failure} (h : Runs b d (.error e) failure d') :
    failure = some e ∧ d'.link = d.link := by
  cases h with
  | refused => exact ⟨rfl, rfl⟩

theorem Runs.of_ok {sql : String} {values : List Value}
    (h : Runs b d (.ok (sql, values)) failure d') :
    ∃ q d'', Ran b sql values (d.withQuery q) d'' ∧ d'.link = d''.link := by
  cases h with
  | ran _ _ h => exact ⟨_, _, h, rfl⟩

/-- What is done with the answer to a statement may fail in its own way. -/
theorem Runs.of_answered (h : Runs b d compiled none d') : Runs b d compiled failure d' := by
  cases h with
  | ran q q' h => exact .ran q q' h

/-- Work after a statement that asks nothing more. -/
theorem Runs.bind {w : Work σ α} {f : α → Work σ β}
    (h : Runs b d compiled (Result.failure? (w d).1) (w d).2) (hf : ∀ a d', (f a d').2 = d') :
    Runs b d compiled (Result.failure? ((w >>= f) d).1) ((w >>= f) d).2 := by
  rw [bind_apply]
  rcases hw : w d with ⟨_ | a, d'⟩
  · rwa [hw] at h
  · rw [hw] at h
    change Runs b d compiled _ (f a d').2
    rw [hf]
    exact h.of_answered

theorem runs_yield {r : Result α} {f : α → Work σ β} {g : α → Result (String × List Value)}
    (hf : ∀ a, Runs b d (g a) (Result.failure? (f a d).1) (f a d).2) :
    Runs b d (r >>= g) (Result.failure? ((yield r >>= f) d).1) ((yield r >>= f) d).2 := by
  cases r with
  | error e => exact .refused d.session.query
  | ok a => exact hf a

theorem runs_query (sql : String) (values : List Value) :
    Runs b d (.ok (sql, values)) (Result.failure? (runQuery b sql values d).1)
      (runQuery b sql values d).2 :=
  .ran d.session.query (runQuery b sql values d).2.session.query .query

theorem runs_execute (sql : String) (values : List Value) :
    Runs b d (.ok (sql, values)) (Result.failure? (execute b sql values d).1)
      (execute b sql values d).2 :=
  .ran d.session.query (execute b sql values d).2.session.query .exec

theorem runs_current {f : Session → Work σ α}
    (hf : Runs b d compiled (Result.failure? (f d.session d).1) (f d.session d).2) :
    Runs b d compiled (Result.failure? ((current >>= f) d).1) ((current >>= f) d).2 :=
  hf

theorem runs_terminal {w : Work σ α}
    (h : Runs b d compiled (Result.failure? (w d).1) (w d).2) :
    Runs b d compiled (Result.failure? (terminal w d).1) (terminal w d).2 :=
  h.withQuery _

theorem runs_setQuery {q : Query} {f : Unit → Work σ α}
    (hf : Runs b (d.withQuery q) compiled (Result.failure? (f () (d.withQuery q)).1)
      (f () (d.withQuery q)).2) :
    Runs b d compiled (Result.failure? ((setQuery q >>= f) d).1) ((setQuery q >>= f) d).2 :=
  Runs.of_withQuery hf

theorem runs_executeSql (r : Result (Sql × List Value)) :
    Runs b d (d.session.worded r) (Result.failure? (executeSql b r d).1) (executeSql b r d).2 := by
  refine runs_yield ?_
  rintro ⟨sql, values⟩
  exact runs_current (runs_execute _ values)

theorem runs_load (planned : Result Plan) (o : Object)
    (statement : Plan → Result (Sql × List Value)) :
    Runs b d (Plan.compiled planned statement)
      (Result.failure? (load b (planned, o) statement d).1.1)
      (load b (planned, o) statement d).2 := by
  have hfetch : Runs b d (Plan.compiled planned statement)
      (Result.failure? (fetch b planned statement d).1) (fetch b planned statement d).2 := by
    refine runs_yield fun p => runs_setQuery (runs_yield ?_)
    rintro ⟨sql, values⟩
    exact runs_current ((runs_query _ values).bind fun _ _ => rfl)
  rw [load_eq]
  rcases hfetched : (fetch b planned statement d).1 with e | ⟨p, c⟩
  · rwa [hfetched] at hfetch
  · rw [hfetched] at hfetch
    exact hfetch.of_answered

/-! ## Operations -/

theorem runs_all (fresh : Object) (columns : List String) :
    ∀ r ∈ d.session.compiled (.all fresh columns),
      Runs b d r (Result.failure? (all b fresh columns d).1) (all b fresh columns d).2 := by
  rintro _ ⟨⟩
  refine runs_terminal (runs_current (runs_yield fun p => runs_yield fun sql => ?_))
  exact (runs_query _ _).bind fun _ _ => rfl

theorem runs_findRecord (id : Value) (primaryKey : String) (columns : List String) :
    ∀ r ∈ d.session.compiled (.findRecord id primaryKey columns),
      Runs b d r (Result.failure? (findRecord b id primaryKey columns d).1)
        (findRecord b id primaryKey columns d).2 := by
  rintro _ ⟨⟩
  refine runs_terminal (runs_current (runs_yield fun _ => ?_))
  split
  · exact .refused d.session.query
  split
  · exact .refused d.session.query
  · exact (runs_query _ _).bind fun _ _ => rfl

theorem runs_firstRecord :
    ∀ r ∈ d.session.compiled .firstRecord,
      Runs b d r (Result.failure? (firstRecord b d).1) (firstRecord b d).2 := by
  rintro _ ⟨⟩
  refine runs_terminal (runs_current (runs_yield ?_))
  rintro ⟨sql, values⟩
  exact (runs_query _ _).bind fun _ _ => rfl

theorem runs_allRecords :
    ∀ r ∈ d.session.compiled .allRecords,
      Runs b d r (Result.failure? (allRecords b d).1) (allRecords b d).2 := by
  rintro _ ⟨⟩
  refine runs_terminal (runs_current (runs_yield fun sql => ?_))
  exact (runs_query _ _).bind fun _ _ => rfl

theorem runs_insert (p : Payload) :
    ∀ r ∈ d.session.compiled (.insert p),
      Runs b d r (Result.failure? (insert b p d).1) (insert b p d).2 := by
  rintro _ ⟨⟩
  exact runs_terminal (runs_current (runs_executeSql _))

theorem runs_update (p : Payload) :
    ∀ r ∈ d.session.compiled (.update p),
      Runs b d r (Result.failure? (update b p d).1) (update b p d).2 := by
  rintro _ ⟨⟩
  refine runs_terminal (runs_current ?_)
  exact (runs_executeSql _).bind fun _ _ => rfl

theorem runs_delete :
    ∀ r ∈ d.session.compiled .delete,
      Runs b d r (Result.failure? (delete b d).1) (delete b d).2 := by
  rintro _ ⟨⟩
  refine runs_terminal (runs_current ?_)
  exact (runs_executeSql _).bind fun _ _ => rfl

end

/-- An operation with a statement reports the failure to compile it, or runs it. -/
theorem perform_runs (b : Backend σ) (o : Operation) (d : Desk σ) :
    ∀ r ∈ d.session.compiled o, Runs b d r (perform b o d).1.failure? (perform b o d).2 := by
  cases o with
  | find id o columns =>
      rintro _ ⟨⟩
      exact (runs_load _ _ _).withQuery _
  | first o columns =>
      rintro _ ⟨⟩
      exact (runs_load _ _ _).withQuery _
  | all fresh columns => exact runs_all fresh columns
  | findRecord id primaryKey columns => exact runs_findRecord id primaryKey columns
  | firstRecord => exact runs_firstRecord
  | allRecords => exact runs_allRecords
  | insert p => exact runs_insert p
  | update p => exact runs_update p
  | delete => exact runs_delete
  | exec sql values =>
      rintro _ ⟨⟩
      exact runs_execute sql values
  | _ => exact nofun

theorem textOf_snd (compile : Session → Result Sql) (d : Desk σ) :
    (textOf compile d).2 = d.withQuery (.empty d.session.query.dialect) := by
  simp only [textOf, terminal, bind_apply, current, yield]
  cases compile d.session <;> rfl

/-- Any other operation changes the query in the making only, unless it controls a transaction. -/
theorem perform_uncompiled (b : Backend σ) (o : Operation) (d : Desk σ)
    (h : d.session.compiled o = none) (ho : o.controls = false) :
    ∃ q, (perform b o d).2 = d.withQuery q := by
  cases o with
  | step s => exact ⟨d.session.query.apply s, rfl⟩
  | selectText => exact ⟨_, textOf_snd (fun s => s.query.selectSql) d⟩
  | insertText p => exact ⟨_, textOf_snd (fun s => (s.query.insertSql s.naming p).map Prod.fst) d⟩
  | updateText p => exact ⟨_, textOf_snd (fun s => (s.query.updateSql s.naming p).map Prod.fst) d⟩
  | deleteText => exact ⟨_, textOf_snd (fun s => s.query.deleteSql) d⟩
  | begin | commit | rollback | close => cases ho
  | _ => cases h

end Session

end SqlMapping
