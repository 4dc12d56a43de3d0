import SqlMapping.Proofs.Query.Ledger
import SqlMapping.Proofs.Session.Compiled
import SqlMapping.Proofs.Session.Turns

/-! # Units of a session

Calls on the query are collected until an operation uses the query and ends it. Each such unit starts
with a new query: it does what it would do in a session that had nothing before but its cache and
its transaction.
-/

namespace SqlMapping

open Session

variable {σ : Type}

/-- Operations that end the query in the making. -/
def Operation.endsQuery : Operation → Bool
  | find .. | first .. | all .. | findRecord .. | firstRecord | allRecords | insert _ | update _
  | delete | selectText | insertText _ | updateText _ | deleteText => true
  | _ => false

/-- A session with a new query that takes over the cache and the transaction of another. -/
def Session.anew (s last : Session) : Session :=
  { s with cache := last.cache, active := last.active, query := .empty s.query.dialect }

/-! ## Work that leaves the query -/

/-- Between two states a session changes its cache and its transaction only. -/
def Steady (d d' : Desk σ) : Prop :=
  d'.session = { d.session with cache := d'.session.cache, active := d'.session.active }

namespace Steady

variable {d d' d'' : Desk σ}

theorem refl : Steady d d := rfl

theorem trans (h : Steady d d') (h' : Steady d' d'') : Steady d d'' := by
  unfold Steady at *
  rw [h', h]

theorem query (h : Steady d d') : d'.session.query = d.session.query := by
  rw [h]

end Steady

/-- Work that changes of a session its cache and its transaction only. -/
def KeepsQuery {α : Type} (w : Work σ α) : Prop :=
  ∀ d, Steady d (w d).2

namespace KeepsQuery

variable {α β : Type} {w : Work σ α} {f : α → Work σ β}

theorem bind (hw : KeepsQuery w) (hf : ∀ a, KeepsQuery (f a)) : KeepsQuery (w >>= f) :=
  fun d => kept_bind Steady.trans (hw d) fun a _ => hf a _

theorem during (a : Activity) (hw : KeepsQuery w) : KeepsQuery (Session.during a w) :=
  hw

theorem yield (r : Result α) : KeepsQuery (σ := σ) (Session.yield r) :=
  fun _ => .refl

theorem current : KeepsQuery (σ := σ) Session.current :=
  fun _ => .refl

end KeepsQuery

namespace Session

variable (b : Backend σ)

theorem keepsQuery_sendWithin (deadline : Option Nat) (r : Request) :
    KeepsQuery (sendWithin b deadline r) := by
  cases deadline with
  | none => exact fun _ => .refl
  | some deadline =>
      refine .bind (fun _ => .refl) fun t => ?_
      split
      · exact .yield _
      · exact fun _ => .refl

theorem keepsQuery_prepare (sql : String) : KeepsQuery (prepare b sql) := by
  refine .bind (fun _ => .refl) fun found => ?_
  cases found with
  | some p => exact fun _ => .refl
  | none =>
      refine .bind (keepsQuery_sendWithin b none _) fun p => .bind (fun d => ?_) fun _ _ => .refl
      unfold Steady keep
      split <;> rfl

theorem keepsQuery_record (sql : String) (values : List Value) :
    KeepsQuery (record b sql values) := by
  intro d
  unfold record
  split <;> exact .refl

theorem keepsQuery_route : KeepsQuery (σ := σ) route := by
  intro d
  unfold route
  split <;> exact .refl

theorem keepsQuery_runQuery (sql : String) (values : List Value) :
    KeepsQuery (runQuery b sql values) :=
  (keepsQuery_record b sql values).bind fun _ => .during _ <|
    (keepsQuery_prepare b sql).bind fun _ => keepsQuery_route.bind fun _ =>
      keepsQuery_sendWithin b _ _

theorem keepsQuery_execute (sql : String) (values : List Value) :
    KeepsQuery (execute b sql values) :=
  (keepsQuery_record b sql values).bind fun _ => .during _ <|
    (keepsQuery_prepare b sql).bind fun _ => keepsQuery_route.bind fun _ =>
      keepsQuery_sendWithin b _ _

theorem keepsQuery_begin (timeout : Option Nat) : KeepsQuery (begin b timeout) := by
  refine .bind .current fun s => ?_
  split
  · exact .yield _
  · refine .bind (.during _ (keepsQuery_sendWithin b none .begin)) fun t => ?_
    cases timeout <;> exact fun _ => rfl

theorem keepsQuery_takeActive : KeepsQuery (σ := σ) takeActive := by
  intro d
  unfold takeActive
  split <;> rfl

theorem keepsQuery_commit : KeepsQuery (commit b) := by
  refine keepsQuery_takeActive.bind fun a => .bind ?_ fun late => ?_
  · cases a.deadline <;> exact fun _ => .refl
  · split
    · exact fun _ => .refl
    · exact .during _ (keepsQuery_sendWithin b _ _)

theorem keepsQuery_rollback : KeepsQuery (rollback b) :=
  keepsQuery_takeActive.bind fun _ => .during _ (keepsQuery_sendWithin b none _)

theorem keepsQuery_closeCache : KeepsQuery (closeCache b) :=
  fun _ => rfl

theorem keepsQuery_close : KeepsQuery (close b) := by
  refine .bind .current fun s => ?_
  split
  · exact (keepsQuery_rollback b).bind fun _ => keepsQuery_closeCache b
  · exact keepsQuery_closeCache b

/-- Operations that neither build the query nor end it leave it as it is. -/
theorem steady_perform {o : Operation} (ho : o.endsQuery = false) (hs : ∀ s, o ≠ .step s)
    (d : Desk σ) : Steady d (perform b o d).2 := by
  cases o with
  | step s => exact absurd rfl (hs s)
  | exec sql values => exact keepsQuery_execute b sql values d
  | begin timeout => exact keepsQuery_begin b timeout d
  | commit => exact keepsQuery_commit b d
  | rollback => exact keepsQuery_rollback b d
  | close => exact keepsQuery_close b d
  | _ => cases ho

end Session

/-! ## Operations that end the query -/

/-- Between two states a session changes its cache and its transaction, and its query is a new one
afterwards. -/
def Renews (d d' : Desk σ) : Prop :=
  d'.session = d.session.anew d'.session

theorem Steady.renews {d d' : Desk σ} {q : Query} (h : Steady (d.withQuery q) d')
    (hq : q.dialect = d.session.query.dialect) :
    Renews d (d'.withQuery (.empty d'.session.query.dialect)) := by
  have hdialect : d'.session.query.dialect = d.session.query.dialect := by
    rw [h]
    exact hq
  unfold Renews Desk.withQuery
  rw [hdialect, h]
  rfl

theorem KeepsQuery.renews {α : Type} {w : Work σ α} (h : KeepsQuery w) (d : Desk σ) :
    Renews d (terminal w d).2 :=
  (h d).renews (q := d.session.query) rfl

theorem Plan.dialect_ofObject {naming : Naming} {aliases : Option (List (String × String))}
    {q : Query} {requested : List String} {o : Object} {p : Plan}
    (h : (ofObject naming aliases q requested o).1 = .ok p) : p.query.dialect = q.dialect := by
  rw [ofObject] at h
  split at h
  · cases h
  · obtain rfl := Except.ok.inj h
    dsimp only
    split <;> rfl

namespace Session

variable (b : Backend σ)

theorem dialect_planFor {s : Session} {aliases : Option (List (String × String))}
    {requested : List String} {o : Object} {p : Plan}
    (h : (s.planFor aliases requested o).1 = .ok p) : p.query.dialect = s.query.dialect := by
  rw [ofObject_of_planFor h] at h
  exact Plan.dialect_ofObject h

/-- Loading plans a query of its own, in the dialect of the session. -/
theorem steady_fetch {planned : Result Plan} (statement : Plan → Result (Sql × List Value))
    {d : Desk σ} (h : ∀ p, planned = .ok p → p.query.dialect = d.session.query.dialect) :
    ∃ q, q.dialect = d.session.query.dialect ∧
      Steady (d.withQuery q) (fetch b planned statement d).2 := by
  cases planned with
  | error e => exact ⟨d.session.query, rfl, .refl⟩
  | ok p =>
      refine ⟨p.query, h p rfl, ?_⟩
      have hrest : KeepsQuery (do
          let compiled ← yield (statement p)
          let s ← current
          let c ← runQuery b (s.text compiled.1) compiled.2
          return (p, c)) :=
        (KeepsQuery.yield _).bind fun _ => KeepsQuery.current.bind fun _ =>
          (keepsQuery_runQuery b _ _).bind fun _ _ => .refl
      exact hrest (d.withQuery p.query)

theorem renews_load {planned : Result Plan} (o : Object)
    (statement : Plan → Result (Sql × List Value)) {d : Desk σ}
    (h : ∀ p, planned = .ok p → p.query.dialect = d.session.query.dialect) :
    Renews d (terminalOn (load b (planned, o) statement) d).2 := by
  obtain ⟨q, hq, hsteady⟩ := steady_fetch b statement h
  have hload : (load b (planned, o) statement d).2 = (fetch b planned statement d).2 := by
    rw [load_eq]
  rw [← hload] at hsteady
  exact hsteady.renews hq

theorem keepsQuery_executeSql (r : Result (Sql × List Value)) : KeepsQuery (executeSql b r) :=
  (KeepsQuery.yield _).bind fun _ => KeepsQuery.current.bind fun _ => keepsQuery_execute b _ _

theorem renews_textOf (compile : Session → Result Sql) (d : Desk σ) :
    Renews d (textOf compile d).2 := by
  rw [textOf_snd]
  rfl

theorem renews_all (fresh : Object) (columns : List String) (d : Desk σ) :
    Renews d (all b fresh columns d).2 := by
  refine KeepsQuery.renews (.bind .current fun s => .bind (.yield _) fun p => ?_) d
  exact .bind (.yield _) fun sql => (keepsQuery_runQuery b _ _).bind fun _ => .yield _

theorem renews_findRecord (id : Value) (primaryKey : String) (columns : List String)
    (d : Desk σ) : Renews d (findRecord b id primaryKey columns d).2 := by
  refine KeepsQuery.renews (.bind .current fun s => .bind (.yield _) fun _ => ?_) d
  split
  · exact .yield _
  split
  · exact .yield _
  · exact (keepsQuery_runQuery b _ _).bind fun _ => .yield _

theorem renews_firstRecord (d : Desk σ) : Renews d (firstRecord b d).2 := by
  refine KeepsQuery.renews (.bind .current fun s => .bind (.yield _) fun _ => ?_) d
  exact (keepsQuery_runQuery b _ _).bind fun _ => .yield _

theorem renews_allRecords (d : Desk σ) : Renews d (allRecords b d).2 := by
  refine KeepsQuery.renews (.bind .current fun s => .bind (.yield _) fun _ => ?_) d
  exact (keepsQuery_runQuery b _ _).bind fun _ => .yield _

theorem renews_insert (p : Payload) (d : Desk σ) : Renews d (insert b p d).2 :=
  KeepsQuery.renews (.bind .current fun _ => keepsQuery_executeSql b _) d

theorem renews_update (p : Payload) (d : Desk σ) : Renews d (update b p d).2 := by
  refine KeepsQuery.renews (.bind .current fun s => ?_) d
  exact (keepsQuery_executeSql b _).bind fun _ _ => .refl

theorem renews_delete (d : Desk σ) : Renews d (delete b d).2 := by
  refine KeepsQuery.renews (.bind .current fun s => ?_) d
  exact (keepsQuery_executeSql b _).bind fun _ _ => .refl

/-- An operation that ends the query does so whatever comes of it. -/
theorem renews_perform {o : Operation} (ho : o.endsQuery = true) (d : Desk σ) :
    Renews d (perform b o d).2 := by
  cases o with
  | find id o columns => exact renews_load b _ _ fun p => dialect_planFor
  | first o columns => exact renews_load b _ _ fun p => dialect_planFor
  | all fresh columns => exact renews_all b fresh columns d
  | findRecord id primaryKey columns => exact renews_findRecord b id primaryKey columns d
  | firstRecord => exact renews_firstRecord b d
  | allRecords => exact renews_allRecords b d
  | insert p => exact renews_insert b p d
  | update p => exact renews_update b p d
  | delete => exact renews_delete b d
  | selectText => exact renews_textOf (fun s => s.query.selectSql) d
  | insertText p => exact renews_textOf (fun s => (s.query.insertSql s.naming p).map Prod.fst) d
  | updateText p => exact renews_textOf (fun s => (s.query.updateSql s.naming p).map Prod.fst) d
  | deleteText => exact renews_textOf (fun s => s.query.deleteSql) d
  | _ => cases ho

/-! ## Units of a run -/

/-- A session after some calls. -/
def after (s : Session) (calls : List (Link σ × Operation)) : Session :=
  calls.foldl (fun s (l, o) => (turn b s l o).2) s

/-- The turns of units. Each unit after the first has a session of its own, with a new query. -/
def unitTurns (s : Session) : List (List (Link σ × Operation)) → List (List Turn)
  | [] => []
  | u :: us => turns b s u :: unitTurns (s.anew (after b s u)) us

end Session

/-- Calls divided after each operation that ends the query. -/
def units : List (Link σ × Operation) → List (List (Link σ × Operation))
  | [] => []
  | c :: cs =>
    if c.2.endsQuery then [c] :: units cs
    else match units cs with
      | [] => [[c]]
      | u :: us => (c :: u) :: us

theorem flatten_units (calls : List (Link σ × Operation)) : (units calls).flatten = calls := by
  induction calls with
  | nil => rfl
  | cons c cs ih =>
      rw [units]
      split
      · rw [List.flatten_cons, ih]
        rfl
      · split
        · rename_i hnil
          rw [hnil] at ih
          rw [← ih]
          rfl
        · rename_i u us hcons
          rw [hcons] at ih
          rw [← ih]
          rfl

namespace Session

variable (b : Backend σ)

/-- A call that ends the query leaves a session with a new one. -/
theorem turn_anew (s : Session) (l : Link σ) {o : Operation} (ho : o.endsQuery = true) :
    s.anew (turn b s l o).2 = (turn b s l o).2 := by
  have hrenews : Renews ⟨s, l⟩ (perform b o ⟨s, l⟩).2 := renews_perform b ho _
  exact hrenews.symm

/-- What stays the same in every call is what a session made anew takes over. -/
theorem anew_turn (s last : Session) (l : Link σ) (o : Operation) :
    (turn b s l o).2.anew last = s.anew last := by
  cases ho : o.endsQuery with
  | true =>
      rw [← turn_anew b s l ho]
      rfl
  | false =>
      by_cases hs : ∃ step, o = .step step
      · obtain ⟨step, rfl⟩ := hs
        have hstep : (turn b s l (.step step)).2 = { s with query := s.query.apply step } := rfl
        rw [hstep, anew, anew, Query.apply_dialect]
      · have hsteady : Steady ⟨s, l⟩ (perform b o ⟨s, l⟩).2 :=
          steady_perform b ho (fun step heq => hs ⟨step, heq⟩) _
        have hturn : (turn b s l o).2 = (perform b o ⟨s, l⟩).2.session := rfl
        rw [hturn, hsteady]
        rfl

/-- A run does what its units do one after another. -/
theorem turns_eq_unitTurns (s : Session) (calls : List (Link σ × Operation)) :
    turns b s calls = (unitTurns b s (units calls)).flatten := by
  induction calls generalizing s with
  | nil => rfl
  | cons c cs ih =>
      obtain ⟨l, o⟩ := c
      have hturns : turns b s ((l, o) :: cs) = (turn b s l o).1 :: turns b (turn b s l o).2 cs := rfl
      rw [hturns, ih, units]
      split
      · rename_i ho
        have hafter : s.anew (after b s [(l, o)]) = (turn b s l o).2 := turn_anew b s l ho
        rw [unitTurns, hafter]
        rfl
      · split
        · rename_i hnil
          rw [hnil]
          rfl
        · rename_i u us hcons
          have hafter : s.anew (after b s ((l, o) :: u)) =
              (turn b s l o).2.anew (after b (turn b s l o).2 u) := (anew_turn b s _ l o).symm
          rw [hcons, unitTurns, unitTurns, hafter]
          rfl

/-- Operations that end the query leave a new one, whatever comes of them; those that are not about
the query leave it as it is. So each unit of a run does what it does in a session that has its
settings, a new query and the cache and the transaction that the units before it left. -/
theorem units_independent (s : Session) :
    (∀ l o, o.endsQuery = true → (turn b s l o).2.query = .empty s.query.dialect) ∧
    (∀ l o, o.endsQuery = false → (∀ step, o ≠ .step step) → (turn b s l o).2.query = s.query) ∧
    ∀ calls, (units calls).flatten = calls ∧
      turns b s calls = (unitTurns b s (units calls)).flatten := by
  refine ⟨fun l o ho => ?_, fun l o ho hs => ?_, fun calls => ?_⟩
  · rw [← turn_anew b s l ho]
    rfl
  · have hsteady : Steady ⟨s, l⟩ (perform b o ⟨s, l⟩).2 := steady_perform b ho hs _
    exact hsteady.query
  · exact ⟨flatten_units calls, turns_eq_unitTurns b s calls⟩

/-- A delete after one that was refused does what it does on its own. -/
theorem units_independent_refusedDelete :
    let s : Session :=
      { naming := .snake, sharesCache := true, sink := none, query := .empty .mysql }
    let l : Link Script := { backend := {} }
    let unlisted := Operation.step (.compare .and "id" "~~bogus~~" (.text (some "7")))
    let refused := [(l, unlisted), (l, .delete)]
    let plain := [(l, .step (.table "users")), (l, .delete)]
    Operation.delete.endsQuery = true ∧
      (turn Script.backend (after Script.backend s [(l, unlisted)]) l .delete).2.query =
        .empty .mysql ∧
      turns Script.backend s (refused ++ plain) =
        turns Script.backend s refused ++ turns Script.backend s plain := by
  intro s l unlisted refused plain
  obtain ⟨-, -, hturns⟩ := units_independent Script.backend s
  obtain ⟨hends, -, -⟩ := units_independent Script.backend (after Script.backend s [(l, unlisted)])
  refine ⟨rfl, hends l .delete rfl, (hturns (refused ++ plain)).2.trans ?_⟩
  rfl

end Session

end SqlMapping
