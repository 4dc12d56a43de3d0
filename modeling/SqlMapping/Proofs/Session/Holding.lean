import SqlMapping.Proofs.Lists
import SqlMapping.Proofs.Session.Closing
import SqlMapping.Proofs.Session.Transactions

/-! # Statements that are held

A statement that a session prepares is held in one of the two caches it looks into until its cache
is closed. A text is prepared if neither cache has a statement for its checksum, and what is held is
never replaced.
-/

namespace SqlMapping

open Session
open scoped List

variable {σ : Type}

/-! ## Statements in a record -/

namespace Request

/-- The text that is to be prepared. -/
def prepares? : Request → Option String
  | prepare sql => some sql
  | _ => none

/-- A request that neither prepares a statement nor closes one. -/
def IsPlain (r : Request) : Prop :=
  r.prepares? = none ∧ r.closes? = none

end Request

/-- The statement that an answer prepared. -/
def Exchange.prepared? : Exchange → Option Prepared
  | ⟨.prepare _, some (.ok p)⟩ => some p
  | _ => none

theorem Exchange.prepared?_eq_none {e : Exchange} (h : e.request.prepares? = none) :
    e.prepared? = none := by
  unfold prepared?
  split
  · cases h
  · rfl

def preparedIn (sent : List Exchange) : List Prepared :=
  sent.filterMap Exchange.prepared?

/-- The texts that are to be prepared, whatever the answer is. -/
def textsIn (sent : List Exchange) : List String :=
  sent.filterMap fun e => e.request.prepares?

@[simp] theorem preparedIn_nil : preparedIn [] = [] := rfl

@[simp] theorem preparedIn_append (sent sent' : List Exchange) :
    preparedIn (sent ++ sent') = preparedIn sent ++ preparedIn sent' :=
  List.filterMap_append

@[simp] theorem textsIn_append (sent sent' : List Exchange) :
    textsIn (sent ++ sent') = textsIn sent ++ textsIn sent' :=
  List.filterMap_append

theorem preparedIn_eq_nil {sent : List Exchange} (h : textsIn sent = []) : preparedIn sent = [] :=
  List.filterMap_eq_nil_iff.mpr fun e he =>
    Exchange.prepared?_eq_none (List.filterMap_eq_nil_iff.mp h e he)

/-- Nothing is prepared and nothing is closed. -/
def Plain (sent : List Exchange) : Prop :=
  ∀ e ∈ sent, e.request.IsPlain

namespace Plain

variable {sent : List Exchange}

theorem nil : Plain [] :=
  List.forall_mem_nil _

theorem textsIn_eq (h : Plain sent) : textsIn sent = [] :=
  List.filterMap_eq_nil_iff.mpr fun e he => (h e he).1

theorem preparedIn_eq (h : Plain sent) : preparedIn sent = [] :=
  preparedIn_eq_nil h.textsIn_eq

theorem closedIn_eq (h : Plain sent) : closedIn sent = [] :=
  List.filterMap_eq_nil_iff.mpr fun e he => (h e he).2

end Plain

namespace Closes

variable {ps : List Prepared} {r : Result Unit} {sent : List Exchange}

theorem textsIn_eq (h : Closes ps r sent) : textsIn sent = [] := by
  refine List.filterMap_eq_nil_iff.mpr fun e he => ?_
  obtain ⟨p, hp⟩ := h.exists_closeStatement he
  rw [hp]
  rfl

theorem preparedIn_eq (h : Closes ps r sent) : preparedIn sent = [] :=
  preparedIn_eq_nil h.textsIn_eq

end Closes

/-! ## Caches -/

namespace StatementCache

variable {c c' : StatementCache}

theorem statements_append (c c' : StatementCache) :
    statements (c ++ c') = c.statements ++ c'.statements :=
  List.map_append

theorem put_of_find?_eq_none {k : UInt32} {p : Prepared} (h : c.find? k = none) :
    c.put k p = c ++ [(k, p)] := by
  induction c with
  | nil => rfl
  | cons e es ih =>
      obtain ⟨l, q⟩ := e
      by_cases hl : l = k
      · simp [find?, hl] at h
      · simp only [find?, hl, if_false] at h
        simp [put, hl, ih h]

theorem find?_eq_none {k : UInt32} : c.find? k = none ↔ k ∉ c.map Prod.fst := by
  induction c with
  | nil => simp [find?]
  | cons e es ih =>
      obtain ⟨l, q⟩ := e
      by_cases hl : l = k
      · simp [find?, hl]
      · simp [find?, hl, ih, Ne.symm hl]

/-- What may become of a cache: nothing in it is replaced. -/
inductive Lasts (c : StatementCache) : StatementCache → Prop
  | kept : Lasts c c
  | stored {sql : String} {p : Prepared} (h : c.get? sql = none) :
      Lasts c (c ++ [(Text.checksum sql, p)])
  | emptied : Lasts c []

/-- There is one statement for a checksum. -/
def Distinct (c : StatementCache) : Prop :=
  (c.map Prod.fst).Nodup

theorem Lasts.distinct (h : c.Lasts c') (hc : c.Distinct) : c'.Distinct := by
  cases h with
  | kept => exact hc
  | stored hmissing =>
      have hnew := find?_eq_none.mp hmissing
      rw [Distinct, List.map_append, List.nodup_append]
      refine ⟨hc, by simp, ?_⟩
      rintro k hk _ (_ | ⟨_, ⟨⟩⟩) rfl
      exact hnew hk
  | emptied => exact List.nodup_nil

end StatementCache

/-- What decides which statement a session finds, and where it keeps a new one. -/
def Desk.stock (d : Desk σ) : Bool × StatementCache × StatementCache :=
  (d.session.sharesCache, d.link.cache, d.session.cache)

theorem Desk.stock_eq_iff {d : Desk σ} {shares : Bool} {shared own : StatementCache} :
    d.stock = (shares, shared, own) ↔
      d.session.sharesCache = shares ∧ d.link.cache = shared ∧ d.session.cache = own := by
  simp [stock]

namespace Session

/-- The caches a session looks into. -/
def consulted (s : Session) (l : Link σ) : List StatementCache :=
  if s.sharesCache then [l.cache, s.cache] else [s.cache]

theorem cached?_eq_none {d : Desk σ} {sql : String} :
    cached? d sql = none ↔ ∀ c ∈ d.session.consulted d.link, c.get? sql = none := by
  unfold cached? consulted
  cases d.session.sharesCache with
  | true => cases hshared : d.link.cache.get? sql <;> simp [hshared]
  | false => simp

theorem consulted_congr {d d' : Desk σ} (h : d'.stock = d.stock) :
    d'.session.consulted d'.link = d.session.consulted d.link := by
  obtain ⟨hshares, hshared, hown⟩ := Desk.stock_eq_iff.mp h
  rw [consulted, consulted, hshares, hshared, hown]

theorem stock_keep_congr {d d' : Desk σ} (h : d'.stock = d.stock) (sql : String) (p : Prepared) :
    (keep sql p d').stock = (keep sql p d).stock := by
  obtain ⟨hshares, hshared, hown⟩ := Desk.stock_eq_iff.mp h
  unfold keep
  rw [hshares]
  cases d.session.sharesCache <;> simp [Desk.stock, hshares, hshared, hown]

end Session

/-! ## Work that leaves statements alone -/

/-- What happens leaves the caches as they are, and neither prepares a statement nor closes one. -/
def Untouched (d d' : Desk (σ × List Exchange)) : Prop :=
  d'.stock = d.stock ∧ Sends Request.IsPlain d.link d'.link

namespace Untouched

variable {d d' d'' : Desk (σ × List Exchange)}

theorem of_unchanged (hstock : d'.stock = d.stock) (hsent : d'.link.backend.2 = d.link.backend.2) :
    Untouched d d' :=
  ⟨hstock, [], by simp [hsent], by simp⟩

theorem refl : Untouched d d :=
  of_unchanged rfl rfl

theorem trans (h : Untouched d d') (h' : Untouched d' d'') : Untouched d d'' :=
  ⟨h'.1.trans h.1, h.2.trans h'.2⟩

theorem bind {α β : Type} {w : Work (σ × List Exchange) α} {f : α → Work (σ × List Exchange) β}
    (hw : Untouched d (w d).2) (hf : ∀ a d', Untouched d' (f a d').2) :
    Untouched d ((w >>= f) d).2 :=
  kept_bind trans hw fun a _ => hf a _

end Untouched

namespace Session

variable {b : Backend σ} {d d' : Desk (σ × List Exchange)}

theorem untouched_sendWithin {r : Request} (hr : r.IsPlain) (deadline : Option Nat) :
    Untouched d (sendWithin b.recording deadline r d).2 := by
  obtain ⟨s, sent, h, hsent⟩ := sendWithin_recording b deadline r d
  rw [h]
  exact ⟨rfl, sent, rfl, fun e he => hsent e he ▸ hr⟩

theorem untouched_send {r : Request} (hr : r.IsPlain) : Untouched d (send b.recording r d).2 :=
  untouched_sendWithin hr none

theorem untouched_route : Untouched d (route d).2 := by
  unfold route
  split <;> exact .refl

theorem untouched_begin (timeout : Option Nat) : Untouched d (begin b.recording timeout d).2 := by
  cases hactive : d.session.active with
  | some a =>
      rw [begin_conflict timeout (by simp [hactive])]
      exact .refl
  | none =>
      have hsend : Untouched d (send b.recording .begin d).2 := untouched_send ⟨rfl, rfl⟩
      rw [begin_idle timeout hactive]
      rcases hsent : send b.recording .begin d with ⟨_ | t, d'⟩
      · rwa [hsent] at hsend
      · rw [hsent] at hsend
        cases timeout with
        | none => exact hsend.trans (.of_unchanged rfl rfl)
        | some ms => exact hsend.trans (.of_unchanged rfl rfl)

theorem untouched_takeActive : Untouched d (takeActive d).2 := by
  unfold takeActive
  split <;> exact .of_unchanged rfl rfl

theorem untouched_expired (deadline : Option Nat) :
    Untouched d (expired b.recording deadline d).2 := by
  cases deadline with
  | none => exact .refl
  | some deadline => exact .of_unchanged rfl rfl

theorem untouched_commit : Untouched d (commit b.recording d).2 := by
  refine untouched_takeActive.bind fun a d => (untouched_expired a.deadline).bind fun late d => ?_
  split
  · exact untouched_send (r := .rollback a.transaction) ⟨rfl, rfl⟩
  · exact untouched_sendWithin (r := .commit a.transaction) ⟨rfl, rfl⟩ a.deadline

theorem untouched_rollback : Untouched d (rollback b.recording d).2 :=
  untouched_takeActive.bind fun a _ => untouched_send (r := .rollback a.transaction) ⟨rfl, rfl⟩

end Session

/-! ## What operations do with statements -/

/-- What becomes of the statements that a session may find, with what is sent for it. One text at
most is prepared, and only if it is in no cache that is looked into. -/
inductive Handles (d d' : Desk (σ × List Exchange)) : List Exchange → Prop
  | kept {sent : List Exchange} (hstock : d'.stock = d.stock) (hsent : Plain sent) :
      Handles d d' sent
  | refused {sql : String} {e : Failure} (hmissing : cached? d sql = none)
      (hstock : d'.stock = d.stock) :
      Handles d d' [⟨.prepare sql, some (.error e)⟩]
  | stored {sql : String} {p : Prepared} {after : List Exchange} (hmissing : cached? d sql = none)
      (hstock : d'.stock = (keep sql p d).stock) (hafter : Plain after) :
      Handles d d' (⟨.prepare sql, some (.ok p)⟩ :: after)
  | emptied {before closing : List Exchange} {r : Result Unit}
      (hstock : d'.stock = (d.session.sharesCache, d.link.cache, [])) (hbefore : Plain before)
      (hclosing : Closes d.session.cache.statements r closing) :
      Handles d d' (before ++ closing)

theorem Handles.congr {d d' e e' : Desk (σ × List Exchange)} {sent : List Exchange}
    (h : Handles d d' sent) (hd : e.stock = d.stock) (hd' : e'.stock = d'.stock) :
    Handles e e' sent := by
  have hcached : ∀ {sql}, cached? d sql = none → cached? e sql = none := by
    intro sql
    rw [cached?_eq_none, cached?_eq_none, consulted_congr hd]
    exact id
  cases h with
  | kept hstock hsent => exact .kept (hd'.trans (hstock.trans hd.symm)) hsent
  | refused hmissing hstock => exact .refused (hcached hmissing) (hd'.trans (hstock.trans hd.symm))
  | stored hmissing hstock hafter =>
      refine .stored (hcached hmissing) ?_ hafter
      rw [hd', hstock, stock_keep_congr hd]
  | emptied hstock hbefore hclosing =>
      obtain ⟨hshares, hshared, hown⟩ := Desk.stock_eq_iff.mp hd
      refine .emptied ?_ hbefore (hown ▸ hclosing)
      rw [hd', hstock, hshares, hshared]

/-- The statements are handled from one state to another. -/
def Handled (d d' : Desk (σ × List Exchange)) : Prop :=
  ∃ sent, d'.link.backend.2 = d.link.backend.2 ++ sent ∧ Handles d d' sent

theorem Untouched.handled {d d' : Desk (σ × List Exchange)} (h : Untouched d d') :
    Handled d d' := by
  obtain ⟨hstock, sent, hsent, hplain⟩ := h
  exact ⟨sent, hsent, .kept hstock hplain⟩

theorem Handled.congr {d d' e e' : Desk (σ × List Exchange)} (h : Handled d d')
    (hd : e.stock = d.stock) (hd' : e'.stock = d'.stock)
    (hlog : e.link.backend.2 = d.link.backend.2) (hlog' : e'.link.backend.2 = d'.link.backend.2) :
    Handled e e' := by
  obtain ⟨sent, hsent, hhandles⟩ := h
  exact ⟨sent, by rw [hlog', hlog, hsent], hhandles.congr hd hd'⟩

namespace Session

variable {b : Backend σ} {d d' : Desk (σ × List Exchange)}

/-- A statement for a text is found, is prepared and stored, or is refused. -/
theorem handled_prepared {α : Type} {sql : String} {f : Prepared → Work (σ × List Exchange) α}
    (hf : ∀ p d', Untouched d' (f p d').2) : Handled d ((prepare b.recording sql >>= f) d).2 := by
  rw [bind_apply]
  cases hfound : cached? d sql with
  | some p =>
      rw [prepare_of_cached hfound]
      exact (hf p d).handled
  | none =>
      obtain ⟨reply, d', hsend, hlog, hstock⟩ : ∃ (reply : Result Prepared) (d' : _),
          send b.recording (.prepare sql) d = (reply, d') ∧
            d'.link.backend.2 = d.link.backend.2 ++ [⟨.prepare sql, some reply⟩] ∧
            d'.stock = d.stock := ⟨_, _, rfl, rfl, rfl⟩
      rw [prepare_of_not_cached hfound, hsend]
      cases reply with
      | error e => exact ⟨_, hlog, .refused hfound hstock⟩
      | ok p =>
          obtain ⟨hstock', sent, hsent, hplain⟩ := hf p (keep sql p d')
          refine ⟨⟨.prepare sql, some (.ok p)⟩ :: sent, ?_, .stored hfound ?_ hplain⟩
          · rw [hsent, keep_backend, hlog, List.append_assoc]
            rfl
          · exact hstock'.trans (stock_keep_congr hstock sql p)

theorem handled_recorded {α : Type} {sql : String} {values : List Value}
    {f : Work (σ × List Exchange) α} (hf : ∀ d, Handled d (f d).2) :
    Handled d ((record b.recording sql values >>= fun _ => f) d).2 := by
  obtain ⟨d', hrecord, hstock, hlog⟩ : ∃ d', record b.recording sql values d = (.ok (), d') ∧
      d.stock = d'.stock ∧ d.link.backend.2 = d'.link.backend.2 := by
    unfold record
    split <;> exact ⟨_, rfl, rfl, rfl⟩
  rw [bind_apply, hrecord]
  exact (hf d').congr hstock rfl hlog rfl

theorem handled_runQuery (sql : String) (values : List Value) :
    Handled d (runQuery b.recording sql values d).2 := by
  refine handled_recorded fun d => ?_
  refine handled_prepared (f := fun p => _) fun p d => untouched_route.bind fun x d => ?_
  exact untouched_sendWithin (r := .query x.1 p values) ⟨rfl, rfl⟩ x.2

theorem handled_execute (sql : String) (values : List Value) :
    Handled d (execute b.recording sql values d).2 := by
  refine handled_recorded fun d => ?_
  refine handled_prepared (f := fun p => _) fun p d => untouched_route.bind fun x d => ?_
  exact untouched_sendWithin (r := .exec x.1 p values) ⟨rfl, rfl⟩ x.2

theorem Runs.handled {r : Result (String × List Value)} {failure : Option Failure}
    (h : Runs b.recording d r failure d') : Handled d d' := by
  cases h with
  | refused => exact Untouched.handled (.of_unchanged rfl rfl)
  | ran q q' h =>
      cases h with
      | query => exact (handled_runQuery (d := d.withQuery q) _ _).congr rfl rfl rfl rfl
      | exec => exact (handled_execute (d := d.withQuery q) _ _).congr rfl rfl rfl rfl

theorem handled_closeCache (h : Untouched d d') : Handled d (closeCache b.recording d').2 := by
  obtain ⟨hstock, before, hbefore, hplain⟩ := h
  obtain ⟨hshares, hshared, hown⟩ := Desk.stock_eq_iff.mp hstock
  obtain ⟨closing, hsent, hcloses⟩ :=
    closeAll_closes b d'.session.cache.statements d'.link.backend
  refine ⟨before ++ closing, ?_, .emptied ?_ hplain (hown ▸ hcloses)⟩
  · rw [← List.append_assoc, ← hbefore]
    exact hsent
  · exact Desk.stock_eq_iff.mpr ⟨hshares, hshared, rfl⟩

theorem handled_close : Handled d (close b.recording d).2 := by
  rw [close_eq]
  split
  · have hrollback : Untouched d (rollback b.recording d).2 := untouched_rollback
    rw [bind_apply]
    rcases hd : rollback b.recording d with ⟨_ | _, d'⟩
    · rw [hd] at hrollback
      exact hrollback.handled
    · rw [hd] at hrollback
      exact handled_closeCache hrollback
  · exact handled_closeCache .refl

/-- Every operation handles the statements of its session. -/
theorem handled_perform (b : Backend σ) (d : Desk (σ × List Exchange)) (o : Operation) :
    Handled d (perform b.recording o d).2 := by
  cases hcompiled : d.session.compiled o with
  | some r => exact (perform_runs _ o d r hcompiled).handled
  | none =>
      cases hcontrols : o.controls with
      | false =>
          obtain ⟨q, hq⟩ := perform_uncompiled b.recording o d hcompiled hcontrols
          rw [hq]
          exact Untouched.handled (.of_unchanged rfl rfl)
      | true =>
          cases o with
          | begin timeout => exact Untouched.handled (untouched_begin timeout)
          | commit => exact Untouched.handled untouched_commit
          | rollback => exact Untouched.handled untouched_rollback
          | close => exact handled_close
          | _ => cases hcontrols

end Session

/-! ## The account of statements -/

/-- The statements in the caches that a session looks into. -/
def Desk.held (d : Desk σ) : List Prepared :=
  d.link.cache.statements ++ d.session.cache.statements

/-- What a session does conserves statements. -/
structure Conserves (d d' : Desk (σ × List Exchange)) (sent : List Exchange) : Prop where
  /-- What is prepared is held, and what is held no longer is closed. -/
  balance : d.held ++ preparedIn sent ~ d'.held ++ closedIn sent
  shared : d.link.cache.Lasts d'.link.cache
  own : d.session.cache.Lasts d'.session.cache
  /-- One text at most is prepared, and it is in no cache that is looked into. -/
  missing : textsIn sent = [] ∨ ∃ sql, textsIn sent = [sql] ∧ cached? d sql = none

/-- A statement for a text that is not found is added to one of the two caches. -/
theorem stock_keep {d : Desk σ} {sql : String} {p : Prepared} (h : cached? d sql = none) :
    (keep sql p d).stock =
        (d.session.sharesCache, d.link.cache ++ [(Text.checksum sql, p)], d.session.cache) ∧
      d.link.cache.get? sql = none ∨
    (keep sql p d).stock =
        (d.session.sharesCache, d.link.cache, d.session.cache ++ [(Text.checksum sql, p)]) ∧
      d.session.cache.get? sql = none := by
  have hmissing := cached?_eq_none.mp h
  unfold consulted at hmissing
  unfold keep
  cases hshares : d.session.sharesCache with
  | true =>
      rw [hshares] at hmissing
      have hshared : d.link.cache.get? sql = none := hmissing _ List.mem_cons_self
      refine .inl ⟨Desk.stock_eq_iff.mpr ⟨hshares, ?_, rfl⟩, hshared⟩
      exact StatementCache.put_of_find?_eq_none hshared
  | false =>
      rw [hshares] at hmissing
      have hown : d.session.cache.get? sql = none := hmissing _ List.mem_cons_self
      refine .inr ⟨Desk.stock_eq_iff.mpr ⟨hshares, rfl, ?_⟩, hown⟩
      exact StatementCache.put_of_find?_eq_none hown

theorem Handles.conserves {d d' : Desk (σ × List Exchange)} {sent : List Exchange}
    (h : Handles d d' sent) : Conserves d d' sent := by
  cases h with
  | kept hstock hsent =>
      obtain ⟨-, hshared, hown⟩ := Desk.stock_eq_iff.mp hstock
      refine ⟨?_, hshared ▸ .kept, hown ▸ .kept, .inl hsent.textsIn_eq⟩
      rw [hsent.preparedIn_eq, hsent.closedIn_eq, Desk.held, Desk.held, hshared, hown]
  | @refused sql e hmissing hstock =>
      obtain ⟨-, hshared, hown⟩ := Desk.stock_eq_iff.mp hstock
      refine ⟨?_, hshared ▸ .kept, hown ▸ .kept, .inr ⟨sql, rfl, hmissing⟩⟩
      rw [Desk.held, Desk.held, hshared, hown]
      rfl
  | @stored sql p after hmissing hstock hafter =>
      have hprepared : preparedIn (⟨.prepare sql, some (.ok p)⟩ :: after) = [p] :=
        congrArg (p :: ·) hafter.preparedIn_eq
      have hclosed : closedIn (⟨.prepare sql, some (.ok p)⟩ :: after) = [] :=
        (List.filterMap_cons_none rfl).trans hafter.closedIn_eq
      have htexts : textsIn (⟨.prepare sql, some (.ok p)⟩ :: after) = [sql] :=
        congrArg (sql :: ·) hafter.textsIn_eq
      rcases stock_keep (p := p) hmissing with ⟨hkeep, hget⟩ | ⟨hkeep, hget⟩
      · obtain ⟨-, hshared, hown⟩ := Desk.stock_eq_iff.mp (hstock.trans hkeep)
        refine ⟨?_, hshared ▸ .stored hget, hown ▸ .kept, .inr ⟨sql, htexts, hmissing⟩⟩
        rw [hprepared, hclosed, Desk.held, Desk.held, hshared, hown, List.append_nil,
          StatementCache.statements_append]
        exact perm_append_right_comm _ _ _
      · obtain ⟨-, hshared, hown⟩ := Desk.stock_eq_iff.mp (hstock.trans hkeep)
        refine ⟨?_, hshared ▸ .kept, hown ▸ .stored hget, .inr ⟨sql, htexts, hmissing⟩⟩
        rw [hprepared, hclosed, Desk.held, Desk.held, hshared, hown, List.append_nil,
          StatementCache.statements_append, List.append_assoc]
        rfl
  | @emptied before closing r hstock hbefore hclosing =>
      obtain ⟨-, hshared, hown⟩ := Desk.stock_eq_iff.mp hstock
      refine ⟨?_, hshared ▸ .kept, hown ▸ .emptied, .inl ?_⟩
      · rw [preparedIn_append, closedIn_append, hbefore.preparedIn_eq, hbefore.closedIn_eq,
          hclosing.preparedIn_eq, hclosing.closedIn_eq, Desk.held, Desk.held, hshared, hown]
        simp [StatementCache.statements]
      · rw [textsIn_append, hbefore.textsIn_eq, hclosing.textsIn_eq, List.append_nil]

end SqlMapping
