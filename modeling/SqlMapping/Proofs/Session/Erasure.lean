import SqlMapping.Proofs.Session.Loading

/-! # Records forgotten

A session cannot tell a recording backend from the one that it records: without the record it ends
in the same state, with the same outcome. -/

namespace SqlMapping

open Session

variable {σ : Type}

/-- What a session shares, without the record of its requests. -/
def Link.forget (l : Link (σ × List Exchange)) : Link σ :=
  { backend := l.backend.1, cache := l.cache, log := l.log }

def Desk.forget (d : Desk (σ × List Exchange)) : Desk σ :=
  { session := d.session, link := d.link.forget }

@[simp] theorem Desk.forget_session (d : Desk (σ × List Exchange)) : d.forget.session = d.session :=
  rfl

theorem Link.forget_recording (l : Link σ) (s : Session) : Desk.forget ⟨s, l.recording⟩ = ⟨s, l⟩ :=
  rfl

/-- Work that does the same as other work, but for the record. -/
def Erases {α : Type} (w : Desk (σ × List Exchange) → α × Desk (σ × List Exchange))
    (w' : Desk σ → α × Desk σ) : Prop :=
  ∀ d, w' d.forget = ((w d).1, (w d).2.forget)

namespace Erases

variable {α β : Type}

theorem fst {w : Desk (σ × List Exchange) → α × Desk (σ × List Exchange)}
    {w' : Desk σ → α × Desk σ} (h : Erases w w') (d : Desk (σ × List Exchange)) :
    (w d).1 = (w' d.forget).1 :=
  (congrArg Prod.fst (h d)).symm

theorem map {w : StateM (Desk (σ × List Exchange)) α} {w' : StateM (Desk σ) α} (h : Erases w w')
    (f : α → β) : Erases (f <$> w) (f <$> w') := by
  intro d
  change (f (w' d.forget).1, (w' d.forget).2) = _
  rw [h d]
  rfl

theorem bind {w : Work (σ × List Exchange) α} {w' : Work σ α}
    {f : α → Work (σ × List Exchange) β} {f' : α → Work σ β} (h : Erases w w')
    (hf : ∀ a, Erases (f a) (f' a)) : Erases (w >>= f) (w' >>= f') := by
  intro d
  rw [bind_apply, bind_apply, h d]
  rcases w d with ⟨e | a, d'⟩
  · rfl
  · exact hf a d'

theorem current {f : Session → Work (σ × List Exchange) β} {f' : Session → Work σ β}
    (hf : ∀ s, Erases (f s) (f' s)) : Erases (Session.current >>= f) (Session.current >>= f') :=
  bind (fun _ => rfl) hf

theorem yield {r : Result α} {f : α → Work (σ × List Exchange) β} {f' : α → Work σ β}
    (hf : ∀ a, Erases (f a) (f' a)) : Erases (Session.yield r >>= f) (Session.yield r >>= f') :=
  bind (fun _ => rfl) hf

theorem during {w : Work (σ × List Exchange) α} {w' : Work σ α} (a : Activity)
    (h : Erases w w') : Erases (Session.during a w) (Session.during a w') := by
  intro d
  change (Result.within a (w' d.forget).1, (w' d.forget).2) = _
  rw [h d]
  rfl

theorem terminal {w : Work (σ × List Exchange) α} {w' : Work σ α} (h : Erases w w') :
    Erases (Session.terminal w) (Session.terminal w') := by
  intro d
  change ((w' d.forget).1, _) = _
  rw [h d]
  rfl

theorem terminalOn {w : StateM (Desk (σ × List Exchange)) α} {w' : StateM (Desk σ) α}
    (h : Erases w w') : Erases (Session.terminalOn w) (Session.terminalOn w') := by
  intro d
  change ((w' d.forget).1, _) = _
  rw [h d]
  rfl

end Erases

namespace Session

/-! ## Requests -/

theorem erases_onBackend {α : Type} {f : σ × List Exchange → Result α × (σ × List Exchange)}
    {f' : σ → Result α × σ} (h : ∀ s, f' s.1 = ((f s).1, (f s).2.1)) :
    Erases (onBackend f) (onBackend f') := by
  intro d
  simp only [onBackend, Desk.forget, Link.forget, h]

theorem erases_clock (b : Backend σ) : Erases (clock b.recording) (clock b) :=
  erases_onBackend fun _ => rfl

theorem erases_send (b : Backend σ) (r : Request) : Erases (send b.recording r) (send b r) :=
  erases_onBackend fun _ => rfl

theorem erases_sendBy (b : Backend σ) (deadline : Nat) (r : Request) :
    Erases (sendBy b.recording deadline r) (sendBy b deadline r) := by
  refine erases_onBackend fun s => ?_
  rw [Backend.recording_answerBy]
  rcases b.answerBy deadline r s.1 with ⟨_ | _, _⟩ <;> rfl

theorem erases_sendWithin (b : Backend σ) (deadline : Option Nat) (r : Request) :
    Erases (sendWithin b.recording deadline r) (sendWithin b deadline r) := by
  cases deadline with
  | none => exact erases_send b r
  | some deadline =>
      refine (erases_clock b).bind fun t => ?_
      split
      · exact fun _ => rfl
      · exact erases_sendBy b deadline r

theorem erases_record (b : Backend σ) (sql : String) (values : List Value) :
    Erases (record b.recording sql values) (record b sql values) := by
  intro d
  simp only [record, Desk.forget_session]
  split <;> rfl

/-! ## Statements -/

theorem forget_keep (sql : String) (p : Prepared) (d : Desk (σ × List Exchange)) :
    keep sql p d.forget = (keep sql p d).forget := by
  unfold keep
  rw [Desk.forget_session]
  cases d.session.sharesCache <;> rfl

theorem erases_prepare (b : Backend σ) (sql : String) :
    Erases (prepare b.recording sql) (prepare b sql) := by
  refine .bind (fun _ => rfl) fun found => ?_
  cases found with
  | some p => exact fun _ => rfl
  | none =>
      refine (erases_send b (.prepare sql)).bind fun (p : Prepared) => ?_
      refine .bind (fun d => ?_) fun _ _ => rfl
      rw [forget_keep]

theorem erases_route : Erases (σ := σ) route route := by
  intro d
  simp only [route, Desk.forget_session]
  split <;> rfl

theorem erases_runQuery (b : Backend σ) (sql : String) (values : List Value) :
    Erases (runQuery b.recording sql values) (runQuery b sql values) := by
  refine (erases_record b sql values).bind fun _ => .during _ ?_
  refine (erases_prepare b sql).bind fun p => erases_route.bind ?_
  rintro ⟨via, deadline⟩
  exact erases_sendWithin b deadline (.query via p values)

theorem erases_execute (b : Backend σ) (sql : String) (values : List Value) :
    Erases (execute b.recording sql values) (execute b sql values) := by
  refine (erases_record b sql values).bind fun _ => .during _ ?_
  refine (erases_prepare b sql).bind fun p => erases_route.bind ?_
  rintro ⟨via, deadline⟩
  exact erases_sendWithin b deadline (.exec via p values)

/-! ## Transactions and closing -/

theorem erases_begin (b : Backend σ) (timeout : Option Nat) :
    Erases (begin b.recording timeout) (begin b timeout) := by
  refine .current fun s => ?_
  split
  · exact fun _ => rfl
  · refine .bind (.during _ (erases_send b .begin)) fun t => ?_
    cases timeout <;> exact fun _ => rfl

theorem erases_takeActive : Erases (σ := σ) takeActive takeActive := by
  intro d
  simp only [takeActive, Desk.forget_session]
  split <;> rfl

theorem erases_expired (b : Backend σ) (deadline : Option Nat) :
    Erases (expired b.recording deadline) (expired b deadline) := by
  cases deadline with
  | none => exact fun _ => rfl
  | some deadline => exact fun _ => rfl

theorem erases_commit (b : Backend σ) : Erases (commit b.recording) (commit b) := by
  refine erases_takeActive.bind fun a => (erases_expired b a.deadline).bind fun late => ?_
  split
  · exact fun _ => rfl
  · exact .during _ (erases_sendWithin b a.deadline (.commit a.transaction))

theorem erases_rollback (b : Backend σ) : Erases (rollback b.recording) (rollback b) :=
  erases_takeActive.bind fun a => .during _ (erases_send b (.rollback a.transaction))

theorem forget_closeAll (b : Backend σ) (ps : List Prepared) (s : σ × List Exchange) :
    StatementCache.closeAll b ps s.1 =
      ((StatementCache.closeAll b.recording ps s).1,
        (StatementCache.closeAll b.recording ps s).2.1) := by
  induction ps generalizing s with
  | nil => rfl
  | cons p ps ih =>
      have hrest := ih (b.recording.answer (.closeStatement p) s).2
      simp only [StatementCache.closeAll, Backend.recording] at hrest ⊢
      rw [hrest]
      split <;> rfl

theorem erases_closeCache (b : Backend σ) : Erases (closeCache b.recording) (closeCache b) := by
  intro d
  simp only [closeCache, Desk.forget, Link.forget, forget_closeAll]

theorem erases_close (b : Backend σ) : Erases (close b.recording) (close b) := by
  refine .current fun s => ?_
  split
  · exact (erases_rollback b).bind fun _ => erases_closeCache b
  · exact erases_closeCache b

/-! ## Operations -/

theorem erases_executeSql (b : Backend σ) (r : Result (Sql × List Value)) :
    Erases (executeSql b.recording r) (executeSql b r) := by
  refine .yield ?_
  rintro ⟨sql, values⟩
  exact .current fun s => erases_execute b _ values

theorem erases_fetch (b : Backend σ) (planned : Result Plan)
    (statement : Plan → Result (Sql × List Value)) :
    Erases (fetch b.recording planned statement) (fetch b planned statement) := by
  refine .yield fun p => .bind (fun _ => rfl) fun _ => .yield ?_
  rintro ⟨sql, values⟩
  exact .current fun s => (erases_runQuery b _ values).bind fun _ _ => rfl

theorem erases_load (b : Backend σ) (plan : Result Plan × Object)
    (statement : Plan → Result (Sql × List Value)) :
    Erases (load b.recording plan statement) (load b plan statement) := by
  intro d
  obtain ⟨planned, o⟩ := plan
  rw [load_eq, load_eq, erases_fetch b planned statement d]

theorem erases_find (b : Backend σ) (id : Value) (o : Object) (columns : List String) :
    Erases (find b.recording id o columns) (find b id o columns) :=
  .terminalOn fun d => erases_load b _ _ d

theorem erases_first (b : Backend σ) (o : Object) (columns : List String) :
    Erases (first b.recording o columns) (first b o columns) :=
  .terminalOn fun d => erases_load b _ _ d

theorem erases_all (b : Backend σ) (fresh : Object) (columns : List String) :
    Erases (all b.recording fresh columns) (all b fresh columns) := by
  refine .terminal (.current fun s => .yield fun p => .yield fun sql => ?_)
  exact (erases_runQuery b _ _).bind fun _ _ => rfl

theorem erases_findRecord (b : Backend σ) (id : Value) (primaryKey : String)
    (columns : List String) :
    Erases (findRecord b.recording id primaryKey columns) (findRecord b id primaryKey columns) := by
  refine .terminal (.current fun s => .yield fun _ => ?_)
  split
  · exact fun _ => rfl
  split
  · exact fun _ => rfl
  · exact (erases_runQuery b _ _).bind fun _ _ => rfl

theorem erases_firstRecord (b : Backend σ) :
    Erases (firstRecord b.recording) (firstRecord b) := by
  refine .terminal (.current fun s => .yield ?_)
  rintro ⟨sql, values⟩
  exact (erases_runQuery b _ _).bind fun _ _ => rfl

theorem erases_allRecords (b : Backend σ) : Erases (allRecords b.recording) (allRecords b) := by
  refine .terminal (.current fun s => .yield fun sql => ?_)
  exact (erases_runQuery b _ _).bind fun _ _ => rfl

theorem erases_insert (b : Backend σ) (p : Payload) :
    Erases (insert b.recording p) (insert b p) :=
  .terminal (.current fun _ => erases_executeSql b _)

theorem erases_update (b : Backend σ) (p : Payload) :
    Erases (update b.recording p) (update b p) :=
  .terminal (.current fun _ => (erases_executeSql b _).bind fun _ _ => rfl)

theorem erases_delete (b : Backend σ) : Erases (delete b.recording) (delete b) :=
  .terminal (.current fun _ => (erases_executeSql b _).bind fun _ _ => rfl)

theorem erases_textOf (compile : Session → Result Sql) :
    Erases (σ := σ) (textOf compile) (textOf compile) :=
  .terminal (.current fun _ => .yield fun _ _ => rfl)

/-- An operation does the same on a recording backend as on the one that it records. -/
theorem erases_perform (b : Backend σ) (o : Operation) :
    Erases (perform b.recording o) (perform b o) := by
  cases o with
  | step s => exact fun _ => rfl
  | find id o columns => exact (erases_find b id o columns).map fun r => Outcome.loaded r.1 r.2
  | first o columns => exact (erases_first b o columns).map fun r => Outcome.loaded r.1 r.2
  | all fresh columns => exact (erases_all b fresh columns).map _
  | findRecord id primaryKey columns => exact (erases_findRecord b id primaryKey columns).map _
  | firstRecord => exact (erases_firstRecord b).map _
  | allRecords => exact (erases_allRecords b).map _
  | insert p => exact (erases_insert b p).map _
  | update p => exact (erases_update b p).map _
  | delete => exact (erases_delete b).map _
  | exec sql values => exact (erases_execute b sql values).map _
  | selectText => exact (erases_textOf fun s => s.query.selectSql).map Outcome.text
  | insertText p =>
      exact (erases_textOf fun s => (s.query.insertSql s.naming p).map Prod.fst).map Outcome.text
  | updateText p =>
      exact (erases_textOf fun s => (s.query.updateSql s.naming p).map Prod.fst).map Outcome.text
  | deleteText => exact (erases_textOf fun s => s.query.deleteSql).map Outcome.text
  | begin timeout => exact (erases_begin b timeout).map _
  | commit => exact (erases_commit b).map _
  | rollback => exact (erases_rollback b).map _
  | close => exact (erases_close b).map _

end Session

end SqlMapping
