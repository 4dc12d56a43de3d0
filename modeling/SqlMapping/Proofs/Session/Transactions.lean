import SqlMapping.Proofs.Session.Compiled
import SqlMapping.Proofs.Session.Deadline
import SqlMapping.Proofs.Session.Operation

/-! # Transactions of a session

Statements keep the transaction that is active and go through it. Beginning, committing, rolling
back and closing change it. -/

namespace SqlMapping

open Session

variable {σ : Type}

/-- The transaction that is active. -/
def Session.transaction? (s : Session) : Option Transaction :=
  s.active.map ActiveTransaction.transaction

/-- A request of a session whose transaction stays: a statement goes through it. -/
def Request.Within (active : Option Transaction) (r : Request) : Prop :=
  (∀ via, r.via? = some via → via = active) ∧ r.ends? = none

theorem Request.Within.target {active : Option Transaction} {r : Request} (h : r.Within active)
    {t : Transaction} (ht : r.target? = some t) : active = some t := by
  obtain ⟨hvia, hends⟩ := h
  rw [target?] at ht
  split at ht
  · rename_i via heq
    rw [← hvia via heq, ht]
  · rw [hends] at ht
    cases ht

/-- What happens keeps the transaction, and statements go through it. -/
def Stays (d d' : Desk (σ × List Exchange)) : Prop :=
  d'.session.active = d.session.active ∧
    Sends (Request.Within d.session.transaction?) d.link d'.link

namespace Stays

variable {d d' d'' : Desk (σ × List Exchange)}

theorem of_unchanged (hactive : d'.session.active = d.session.active)
    (hsent : d'.link.backend.2 = d.link.backend.2) : Stays d d' :=
  ⟨hactive, [], by simp [hsent], by simp⟩

theorem refl : Stays d d :=
  of_unchanged rfl rfl

theorem trans (h : Stays d d') (h' : Stays d' d'') : Stays d d'' := by
  obtain ⟨hactive, hsends⟩ := h
  obtain ⟨hactive', hsends'⟩ := h'
  rw [Session.transaction?, hactive] at hsends'
  exact ⟨hactive'.trans hactive, hsends.trans hsends'⟩

theorem bind {α β : Type} {w : Work (σ × List Exchange) α} {f : α → Work (σ × List Exchange) β}
    (hw : Stays d (w d).2) (hf : ∀ a, (w d).1 = .ok a → Stays (w d).2 (f a (w d).2).2) :
    Stays d ((w >>= f) d).2 :=
  kept_bind trans hw hf

end Stays

namespace Session

variable {b : Backend σ} {d d' : Desk (σ × List Exchange)}

/-! ## Statements -/

theorem stays_sendWithin {r : Request} (hr : r.Within d.session.transaction?)
    (deadline : Option Nat) : Stays d (sendWithin b.recording deadline r d).2 := by
  obtain ⟨s, sent, h, hsent⟩ := sendWithin_recording b deadline r d
  rw [h]
  exact ⟨rfl, sent, rfl, fun e he => hsent e he ▸ hr⟩

theorem stays_prepare (sql : String) : Stays d (prepare b.recording sql d).2 := by
  cases hfound : cached? d sql with
  | some p =>
      rw [prepare_of_cached hfound]
      exact .refl
  | none =>
      have hsend : Stays d (send b.recording (.prepare sql) d).2 :=
        stays_sendWithin (r := .prepare sql) ⟨nofun, rfl⟩ none
      rw [prepare_of_not_cached hfound]
      rcases hsent : send b.recording (.prepare sql) d with ⟨_ | p, d'⟩
      · rwa [hsent] at hsend
      · rw [hsent] at hsend
        refine hsend.trans (.of_unchanged ?_ (congrArg Prod.snd (keep_backend sql p d')))
        change (keep sql p d').session.active = _
        unfold keep
        split <;> rfl

theorem stays_record (sql : String) (values : List Value) :
    Stays d (record b.recording sql values d).2 := by
  unfold record
  split <;> exact .of_unchanged rfl rfl

/-- A request is routed through the transaction that is active. -/
theorem stays_routed {α : Type} {f : Option Transaction × Option Nat → Work (σ × List Exchange) α}
    (hf : ∀ deadline, Stays d (f (d.session.transaction?, deadline) d).2) :
    Stays d ((route >>= f) d).2 := by
  have hroute : route d =
      (.ok (d.session.transaction?, d.session.active.bind ActiveTransaction.deadline), d) := by
    unfold route transaction?
    cases d.session.active <;> rfl
  rw [bind_apply, hroute]
  exact hf _

/-- Work with the statement for a text, through the transaction that is active. -/
theorem stays_prepared {α : Type} {sql : String}
    {f : Prepared → Option Transaction × Option Nat → Work (σ × List Exchange) α}
    (hf : ∀ p deadline d', Stays d' (f p (d'.session.transaction?, deadline) d').2) :
    Stays d ((prepare b.recording sql >>= fun p => route >>= f p) d).2 :=
  (stays_prepare sql).bind fun p _ => stays_routed fun deadline => hf p deadline _

theorem stays_runQuery (sql : String) (values : List Value) :
    Stays d (runQuery b.recording sql values d).2 := by
  refine (stays_record sql values).bind fun _ _ => ?_
  refine stays_prepared (f := fun p x => sendWithin b.recording x.2 (.query x.1 p values)) ?_
  intro p deadline d'
  refine stays_sendWithin ⟨?_, rfl⟩ deadline
  rintro _ ⟨⟩
  rfl

theorem stays_execute (sql : String) (values : List Value) :
    Stays d (execute b.recording sql values d).2 := by
  refine (stays_record sql values).bind fun _ _ => ?_
  refine stays_prepared (f := fun p x => sendWithin b.recording x.2 (.exec x.1 p values)) ?_
  intro p deadline d'
  refine stays_sendWithin ⟨?_, rfl⟩ deadline
  rintro _ ⟨⟩
  rfl

theorem Runs.stays {r : Result (String × List Value)} {failure : Option Failure}
    (h : Runs b.recording d r failure d') : Stays d d' := by
  cases h with
  | refused => exact .of_unchanged rfl rfl
  | ran q _ h =>
      cases h with
      | query => exact stays_runQuery (d := d.withQuery q) _ _
      | exec => exact stays_execute (d := d.withQuery q) _ _

theorem perform_stays {o : Operation} (ho : o.controls = false) :
    Stays d (perform b.recording o d).2 := by
  cases hcompiled : d.session.compiled o with
  | some r => exact (perform_runs _ o d r hcompiled).stays
  | none =>
      obtain ⟨q, hq⟩ := perform_uncompiled b.recording o d hcompiled ho
      rw [hq]
      exact .of_unchanged rfl rfl

/-! ## Beginning and ending -/

theorem begin_conflict {d : Desk σ} (timeout : Option Nat) (h : d.session.active.isSome) :
    begin b timeout d = (Result.fail .transactionConflict, d) := by
  change (if d.session.active.isSome then yield (Result.fail .transactionConflict) else _) d = _
  rw [if_pos h]
  rfl

theorem begin_idle {d : Desk σ} (timeout : Option Nat) (h : d.session.active = none) :
    begin b timeout d =
      match send b .begin d with
      | (.ok t, d') =>
        match timeout with
        | none => change (fun s => { s with active := some ⟨t, none⟩ }) d'
        | some ms =>
          change (fun s => { s with active := some ⟨t, some ((b.now d'.link.backend).1 + ms)⟩ })
            (clock b d').2
      | (.error e, d') => (.error (e.within .beginning), d') := by
  rw [begin]
  change (if d.session.active.isSome then yield (Result.fail .transactionConflict) else _ :
    Work σ Unit) d = _
  rw [if_neg (by simp [h])]
  refine (bind_apply (during .beginning (send b .begin)) _ d).trans ?_
  simp only [during]
  generalize send b .begin d = sent
  cases timeout <;> rcases sent with ⟨_ | _, _⟩ <;> rfl

/-- Beginning asks the backend once, and the transaction it answers with is active from then on. -/
theorem begin_recording (timeout : Option Nat) (h : d.session.active = none) :
    ∃ reply : Result Transaction,
      (begin b.recording timeout d).2.link.backend.2 =
          d.link.backend.2 ++ [⟨.begin, some reply⟩] ∧
        match reply with
        | .ok t => ∃ deadline, (begin b.recording timeout d).2.session.active = some ⟨t, deadline⟩
        | .error _ => (begin b.recording timeout d).2.session.active = none := by
  obtain ⟨reply, d', hsend, hlog, hsession⟩ : ∃ (reply : Result Transaction) (d' : _),
      send b.recording .begin d = (reply, d') ∧
        d'.link.backend.2 = d.link.backend.2 ++ [⟨.begin, some reply⟩] ∧
        d'.session = d.session := ⟨_, _, rfl, rfl, rfl⟩
  refine ⟨reply, ?_⟩
  rw [begin_idle timeout h, hsend]
  rcases reply with e | t
  · exact ⟨hlog, (congrArg Session.active hsession).trans h⟩
  · cases timeout with
    | none => exact ⟨hlog, none, rfl⟩
    | some ms => exact ⟨hlog, _, rfl⟩

theorem takeActive_none {d : Desk σ} (h : d.session.active = none) :
    takeActive d = (Result.fail .noTransaction, d) := by
  simp only [takeActive, h]

theorem commit_missing {d : Desk σ} (h : d.session.active = none) :
    commit b d = (Result.fail .noTransaction, d) := by
  rw [commit, bind_apply, takeActive_none h]
  rfl

theorem rollback_missing {d : Desk σ} (h : d.session.active = none) :
    rollback b d = (Result.fail .noTransaction, d) := by
  rw [rollback, bind_apply, takeActive_none h]
  rfl

theorem rollback_eq {a : ActiveTransaction} {d : Desk σ} (h : d.session.active = some a) :
    rollback b d = during .rollingBack (send b (.rollback a.transaction)) d.idle := by
  rw [rollback, bind_apply, takeActive_some h]
  rfl

theorem close_eq (d : Desk σ) :
    close b d =
      if d.session.active.isSome then (rollback b >>= fun _ => closeCache b) d
      else closeCache b d := by
  change (if d.session.active.isSome then (rollback b >>= fun _ => closeCache b) else closeCache b :
    Work σ Unit) d = _
  split <;> rfl

end Session

/-- What closing a session sends and gives, and the session that it leaves. -/
inductive Closing (b : Backend σ) (s : Session) (state : σ) :
    List Exchange → Result Unit → Session → Prop
  | idle {sent : List Exchange} {r : Result Unit} (hactive : s.active = none)
      (hcloses : Closes s.cache.statements r sent) :
      Closing b s state sent r { s with cache := [] }
  | rolledBack {a : ActiveTransaction} {sent : List Exchange} {r : Result Unit}
      (hactive : s.active = some a)
      (hreply : (b.answer (.rollback a.transaction) state).1 = .ok ())
      (hcloses : Closes s.cache.statements r sent) :
      Closing b s state (⟨.rollback a.transaction, some (.ok ())⟩ :: sent) r
        { s with active := none, cache := [] }
  | stuck {a : ActiveTransaction} {e : Failure} (hactive : s.active = some a)
      (hreply : (b.answer (.rollback a.transaction) state).1 = .error e) :
      Closing b s state [⟨.rollback a.transaction, some (.error e)⟩]
        (.error (e.within .rollingBack)) { s with active := none }

namespace Closing

variable {b : Backend σ} {s after : Session} {state : σ} {sent : List Exchange} {r : Result Unit}

theorem idle_after (h : Closing b s state sent r after) : after.active = none := by
  cases h with
  | idle hactive => exact hactive
  | rolledBack => rfl
  | stuck => rfl

theorem closes_statements (h : Closing b s state sent r after) (hactive : s.active = none) :
    ∀ e ∈ sent, ∃ p, e.request = .closeStatement p := by
  cases h with
  | idle _ hcloses => exact fun _ => hcloses.exists_closeStatement
  | rolledBack hsome => cases hactive.symm.trans hsome
  | stuck hsome => cases hactive.symm.trans hsome

/-- An open transaction is ended first, and then statements are closed. -/
theorem ends_first (h : Closing b s state sent r after) {a : ActiveTransaction}
    (hactive : s.active = some a) :
    ∃ e closing, sent = e :: closing ∧ e.request.ends? = some a.transaction ∧
      ∀ e ∈ closing, ∃ p, e.request = .closeStatement p := by
  cases h with
  | idle hnone => cases hnone.symm.trans hactive
  | rolledBack hsome _ hcloses =>
      obtain rfl := Option.some.inj (hsome.symm.trans hactive)
      exact ⟨_, _, rfl, rfl, fun _ => hcloses.exists_closeStatement⟩
  | stuck hsome _ =>
      obtain rfl := Option.some.inj (hsome.symm.trans hactive)
      exact ⟨_, [], rfl, rfl, List.forall_mem_nil _⟩

end Closing

namespace Session

theorem closeCache_closes {b : Backend σ} (d : Desk (σ × List Exchange)) :
    ∃ sent, (closeCache b.recording d).2.link.backend.2 = d.link.backend.2 ++ sent ∧
      Closes d.session.cache.statements (closeCache b.recording d).1 sent :=
  closeAll_closes b d.session.cache.statements d.link.backend

theorem close_closing (b : Backend σ) (d : Desk (σ × List Exchange)) :
    ∃ sent, (close b.recording d).2.link.backend.2 = d.link.backend.2 ++ sent ∧
      Closing b d.session d.link.backend.1 sent (close b.recording d).1
        (close b.recording d).2.session := by
  cases hactive : d.session.active with
  | none =>
      rw [close_eq, if_neg (by simp [hactive])]
      obtain ⟨sent, hsent, hcloses⟩ := closeCache_closes (b := b) d
      exact ⟨sent, hsent, .idle hactive hcloses⟩
  | some a =>
      have hsome : d.session.active.isSome := by simp [hactive]
      obtain ⟨reply, d', hreply, hrollback, hlog, hsession⟩ :
          ∃ (reply : Result Unit) (d' : Desk (σ × List Exchange)),
            (b.answer (.rollback a.transaction) d.link.backend.1).1 = reply ∧
              rollback b.recording d = (Result.within .rollingBack reply, d') ∧
              d'.link.backend.2 = d.link.backend.2 ++ [⟨.rollback a.transaction, some reply⟩] ∧
              d'.session = { d.session with active := none } := by
        rw [rollback_eq hactive]
        exact ⟨_, _, rfl, rfl, rfl, rfl⟩
      cases reply with
      | error e =>
          have hclose : close b.recording d = (.error (e.within .rollingBack), d') := by
            rw [close_eq, if_pos hsome, bind_apply, hrollback]
            rfl
          rw [hclose]
          refine ⟨_, hlog, ?_⟩
          dsimp only
          rw [hsession]
          exact .stuck hactive hreply
      | ok _ =>
          have hclose : close b.recording d = closeCache b.recording d' := by
            rw [close_eq, if_pos hsome, bind_apply, hrollback]
            rfl
          obtain ⟨sent, hsent, hcloses⟩ := closeCache_closes (b := b) d'
          have hafter : (closeCache b.recording d').2.session =
              { d.session with active := none, cache := [] } := by
            change { d'.session with cache := [] } = _
            rw [hsession]
          rw [hlog, List.append_assoc] at hsent
          rw [hsession] at hcloses
          rw [hclose, hafter]
          exact ⟨_, hsent, .rolledBack hactive hreply hcloses⟩

end Session

end SqlMapping
