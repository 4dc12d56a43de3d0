import SqlMapping.Proofs.Session.Transactions

/-! # Turns of a session

While a transaction is active every statement of a session goes through it, and while none is active
through none. A session begins one transaction at a time, and never returns to one that it ended. -/

namespace SqlMapping

open Session

variable {σ : Type}

/-- One call of a session: what it sent and what came of it, with the transaction that was active
before and after. -/
structure Turn where
  before : Option ActiveTransaction
  call : Operation
  sent : List Exchange
  outcome : Outcome
  after : Option ActiveTransaction

/-- How a call treats the transaction. -/
inductive Turn.Conducted : Turn → Prop
  | kept {active : Option ActiveTransaction} {o : Operation} {sent : List Exchange}
      {outcome : Outcome} (ho : o.controls = false)
      (h : ∀ e ∈ sent, e.request.Within (active.map ActiveTransaction.transaction)) :
      Conducted ⟨active, o, sent, outcome, active⟩
  | conflict {a : ActiveTransaction} {timeout : Option Nat} :
      Conducted
        ⟨some a, .begin timeout, [], .done (Result.fail .transactionConflict), some a⟩
  | refused {timeout : Option Nat} {e : Failure} {outcome : Outcome} :
      Conducted ⟨none, .begin timeout, [⟨.begin, some (.error e)⟩], outcome, none⟩
  | begun {timeout : Option Nat} {t : Transaction} {deadline : Option Nat} {outcome : Outcome} :
      Conducted ⟨none, .begin timeout, [⟨.begin, some (.ok t)⟩], outcome, some ⟨t, deadline⟩⟩
  | missing {o : Operation} (ho : o = .commit ∨ o = .rollback) :
      Conducted ⟨none, o, [], .done (Result.fail .noTransaction), none⟩
  /-- A commit gives its transaction up when the deadline passes before it is sent. -/
  | overtaken {a : ActiveTransaction} {outcome : Outcome} :
      Conducted ⟨some a, .commit, [], outcome, none⟩
  | ended {a : ActiveTransaction} {o : Operation} {e : Exchange} {closing : List Exchange}
      {outcome : Outcome} (ho : o = .commit ∨ o = .rollback ∨ o = .close)
      (ends : e.request.ends? = some a.transaction)
      (h : ∀ e ∈ closing, ∃ p, e.request = .closeStatement p) :
      Conducted ⟨some a, o, e :: closing, outcome, none⟩
  | closed {sent : List Exchange} {outcome : Outcome}
      (h : ∀ e ∈ sent, ∃ p, e.request = .closeStatement p) :
      Conducted ⟨none, .close, sent, outcome, none⟩

/-- What is asked of every call of a session. -/
structure Turn.Orderly (t : Turn) : Prop where
  /-- A statement goes through the transaction that is active, and without one through none. -/
  routed : ∀ e ∈ t.sent, ∀ via, e.request.via? = some via →
    via = t.before.map ActiveTransaction.transaction
  /-- The transaction that is active is the only one asked to end. -/
  addressed : ∀ e ∈ t.sent, ∀ x, e.request.ends? = some x →
    t.before.map ActiveTransaction.transaction = some x
  kept : t.call.controls = false → t.after = t.before
  conflict : ∀ timeout, t.call = .begin timeout → t.before.isSome →
    t.outcome = .done (Result.fail .transactionConflict) ∧ t.sent = [] ∧ t.after = t.before
  missing : t.call = .commit ∨ t.call = .rollback → t.before = none →
    t.outcome = .done (Result.fail .noTransaction) ∧ t.sent = []
  idle : t.call = .commit ∨ t.call = .rollback ∨ t.call = .close → t.after = none
  /-- A transaction becomes active by being begun. -/
  origin : ∀ a, t.after = some a →
    t.before = some a ∨ ∃ e ∈ t.sent, e.begins? = some a.transaction

namespace Turn.Conducted

variable {t : Turn}

theorem closing_within {closing : List Exchange} (active : Option Transaction)
    (h : ∀ e ∈ closing, ∃ p, e.request = .closeStatement p) :
    ∀ e ∈ closing, e.request.Within active := by
  intro e he
  obtain ⟨p, hp⟩ := h e he
  rw [hp]
  exact ⟨nofun, rfl⟩

theorem closing_protocol {closing : List Exchange} (active : Option Transaction)
    (h : ∀ e ∈ closing, ∃ p, e.request = .closeStatement p) : Protocol active closing active := by
  refine .of_asked fun e he => ?_
  have hwithin := closing_within active h e he
  exact ⟨fun _ ht => hwithin.target ht, hwithin.2⟩

theorem protocol (h : t.Conducted) :
    Protocol (t.before.map ActiveTransaction.transaction) t.sent
      (t.after.map ActiveTransaction.transaction) := by
  cases h with
  | kept _ h => exact .of_asked fun e he => ⟨fun _ ht => (h e he).target ht, (h e he).2⟩
  | conflict => exact .done
  | refused => exact .asked nofun rfl .done
  | begun => exact .begun rfl .done
  | missing => exact .done
  | overtaken => exact .dropped .done
  | ended _ ends h => exact .ended ends (closing_protocol none h)
  | closed h => exact closing_protocol none h

/-- A call sends requests within its transaction, but for one that ends it. -/
theorem within_or_ends (h : t.Conducted) :
    ∀ e ∈ t.sent, e.request.Within (t.before.map ActiveTransaction.transaction) ∨
      ∃ a, t.before = some a ∧ e.request.ends? = some a.transaction := by
  cases h with
  | kept _ h => exact fun e he => .inl (h e he)
  | conflict => exact List.forall_mem_nil _
  | refused => simp [Request.Within, Request.via?, Request.ends?]
  | begun => simp [Request.Within, Request.via?, Request.ends?]
  | missing => exact List.forall_mem_nil _
  | overtaken => exact List.forall_mem_nil _
  | @ended a _ _ _ _ _ ends h =>
      refine List.forall_mem_cons.mpr ⟨.inr ⟨a, rfl, ends⟩, fun e he => .inl ?_⟩
      exact closing_within _ h e he
  | closed h => exact fun e he => .inl (closing_within _ h e he)

theorem kept_of_controls (h : t.Conducted) (hcall : t.call.controls = false) :
    t.after = t.before := by
  cases h with
  | kept => rfl
  | missing => rfl
  | ended ho => rcases ho with rfl | rfl | rfl <;> cases hcall
  | _ => cases hcall

theorem conflict_of_begin (h : t.Conducted) {timeout : Option Nat}
    (hcall : t.call = .begin timeout) (hbefore : t.before.isSome) :
    t.outcome = .done (Result.fail .transactionConflict) ∧ t.sent = [] ∧ t.after = t.before := by
  cases h with
  | kept ho =>
      obtain rfl := hcall
      cases ho
  | conflict => exact ⟨rfl, rfl, rfl⟩
  | overtaken => cases hcall
  | ended ho => rcases ho with rfl | rfl | rfl <;> cases hcall
  | _ => cases hbefore

theorem missing_of_end (h : t.Conducted) (hcall : t.call = .commit ∨ t.call = .rollback)
    (hbefore : t.before = none) :
    t.outcome = .done (Result.fail .noTransaction) ∧ t.sent = [] := by
  cases h with
  | kept ho => rcases hcall with rfl | rfl <;> cases ho
  | missing => exact ⟨rfl, rfl⟩
  | refused => rcases hcall with hcall | hcall <;> cases hcall
  | begun => rcases hcall with hcall | hcall <;> cases hcall
  | closed => rcases hcall with hcall | hcall <;> cases hcall
  | _ => cases hbefore

theorem idle_of_end (h : t.Conducted)
    (hcall : t.call = .commit ∨ t.call = .rollback ∨ t.call = .close) : t.after = none := by
  cases h with
  | kept ho => rcases hcall with rfl | rfl | rfl <;> cases ho
  | conflict => rcases hcall with hcall | hcall | hcall <;> cases hcall
  | begun => rcases hcall with hcall | hcall | hcall <;> cases hcall
  | _ => rfl

theorem origin_of_after (h : t.Conducted) {a : ActiveTransaction} (ha : t.after = some a) :
    t.before = some a ∨ ∃ e ∈ t.sent, e.begins? = some a.transaction := by
  cases h with
  | kept => exact .inl ha
  | conflict => exact .inl ha
  | begun =>
      obtain rfl := Option.some.inj ha
      exact .inr ⟨_, List.mem_singleton_self _, rfl⟩
  | _ => cases ha

theorem orderly (h : t.Conducted) : t.Orderly where
  routed e he via hvia := by
    rcases h.within_or_ends e he with hwithin | ⟨a, -, hends⟩
    · exact hwithin.1 via hvia
    · rcases Request.eq_of_ends? hends with hr | hr <;> rw [hr] at hvia <;> cases hvia
  addressed e he x hx := by
    rcases h.within_or_ends e he with hwithin | ⟨a, hbefore, hends⟩
    · rw [hwithin.2] at hx
      cases hx
    · rw [hbefore, ← hx, hends]
      rfl
  kept := h.kept_of_controls
  conflict _ := h.conflict_of_begin
  missing := h.missing_of_end
  idle := h.idle_of_end
  origin _ := h.origin_of_after

end Turn.Conducted

namespace Session

variable {b : Backend σ}

/-- The call of an operation, and the session afterwards. A recording backend tells what it sent. -/
def turn (b : Backend σ) (s : Session) (l : Link σ) (o : Operation) : Turn × Session :=
  let (outcome, d) := perform b o ⟨s, l⟩
  let (_, recorded) := perform b.recording o ⟨s, l.recording⟩
  ({ before := s.active, call := o, sent := recorded.link.backend.2, outcome
     after := d.session.active },
    d.session)

/-- The calls of a session, one after another. What it shares may be anything at each of them:
others use it, and time passes. -/
def turns (b : Backend σ) : Session → List (Link σ × Operation) → List Turn
  | _, [] => []
  | s, (l, o) :: calls =>
    let (t, s) := turn b s l o
    t :: turns b s calls

theorem turn_of_perform {s : Session} {l : Link σ} {o : Operation} {outcome : Outcome}
    {d : Desk (σ × List Exchange)} {active after : Option ActiveTransaction}
    {sent : List Exchange} (h : perform b.recording o ⟨s, l.recording⟩ = (outcome, d))
    (hbefore : s.active = active) (hsent : d.link.backend.2 = l.recording.backend.2 ++ sent)
    (hafter : d.session.active = after) :
    (turn b s l o).1 = ⟨active, o, sent, outcome, after⟩ := by
  obtain rfl : d.link.backend.2 = sent := hsent
  have hplain : perform b o ⟨s, l⟩ = (outcome, d.forget) := by
    rw [← l.forget_recording s, erases_perform, h]
  simp only [turn, h, hplain, hbefore, d.forget_session, hafter]

theorem turn_begin (s : Session) (l : Link σ) (timeout : Option Nat) :
    (turn b s l (.begin timeout)).1.Conducted := by
  have hperform : perform b.recording (.begin timeout) ⟨s, l.recording⟩ =
      (.done (begin b.recording timeout ⟨s, l.recording⟩).1,
        (begin b.recording timeout ⟨s, l.recording⟩).2) := rfl
  cases hactive : s.active with
  | some a =>
      rw [begin_conflict timeout (by simp [hactive])] at hperform
      rw [turn_of_perform hperform hactive rfl hactive]
      exact .conflict
  | none =>
      obtain ⟨e | t, hsent, hafter⟩ :=
        begin_recording (b := b) (d := ⟨s, l.recording⟩) timeout hactive
      · rw [turn_of_perform hperform hactive hsent hafter]
        exact .refused
      · obtain ⟨deadline, hafter⟩ := hafter
        rw [turn_of_perform hperform hactive hsent hafter]
        exact .begun

theorem turn_commit (s : Session) (l : Link σ) : (turn b s l .commit).1.Conducted := by
  have hperform : perform b.recording .commit ⟨s, l.recording⟩ =
      (.done (commit b.recording ⟨s, l.recording⟩).1,
        (commit b.recording ⟨s, l.recording⟩).2) := rfl
  cases hactive : s.active with
  | some a =>
      obtain ⟨hidle, sent, hsent, hcommits⟩ :=
        commit_commits (b := b) (d := ⟨s, l.recording⟩) hactive
      rw [turn_of_perform hperform hactive hsent hidle]
      rcases hcommits.eq_nil_or_settled with rfl | ⟨e, rfl, hends⟩
      · exact .overtaken
      · exact .ended (.inl rfl) hends (List.forall_mem_nil _)
  | none =>
      rw [commit_missing hactive] at hperform
      rw [turn_of_perform hperform hactive rfl hactive]
      exact .missing (.inl rfl)

theorem turn_rollback (s : Session) (l : Link σ) : (turn b s l .rollback).1.Conducted := by
  have hperform : perform b.recording .rollback ⟨s, l.recording⟩ =
      (.done (rollback b.recording ⟨s, l.recording⟩).1,
        (rollback b.recording ⟨s, l.recording⟩).2) := rfl
  cases hactive : s.active with
  | some a =>
      rw [rollback_eq hactive] at hperform
      rw [turn_of_perform hperform hactive rfl rfl]
      exact .ended (.inr (.inl rfl)) rfl (List.forall_mem_nil _)
  | none =>
      rw [rollback_missing hactive] at hperform
      rw [turn_of_perform hperform hactive rfl hactive]
      exact .missing (.inr rfl)

theorem turn_close (s : Session) (l : Link σ) :
    (turn b s l .close).1.Conducted := by
  have hperform : perform b.recording .close ⟨s, l.recording⟩ =
      (.done (close b.recording ⟨s, l.recording⟩).1,
        (close b.recording ⟨s, l.recording⟩).2) := rfl
  obtain ⟨sent, hsent, hclosing⟩ := close_closing b ⟨s, l.recording⟩
  cases hactive : s.active with
  | some a =>
      obtain ⟨e, closing, rfl, hends, hcloses⟩ := hclosing.ends_first hactive
      rw [turn_of_perform hperform hactive hsent hclosing.idle_after]
      exact .ended (.inr (.inr rfl)) hends hcloses
  | none =>
      rw [turn_of_perform hperform hactive hsent hclosing.idle_after]
      exact .closed (hclosing.closes_statements hactive)

theorem turn_conducted (s : Session) (l : Link σ) (o : Operation) :
    (turn b s l o).1.Conducted := by
  cases hcontrols : o.controls with
  | false =>
      obtain ⟨hactive, sent, hsent, hwithin⟩ :=
        perform_stays (b := b) (d := ⟨s, l.recording⟩) hcontrols
      rw [turn_of_perform rfl rfl hsent hactive]
      exact .kept hcontrols hwithin
  | true =>
      cases o with
      | begin timeout => exact turn_begin s l timeout
      | commit => exact turn_commit s l
      | rollback => exact turn_rollback s l
      | close => exact turn_close s l
      | _ => cases hcontrols

theorem turns_protocol (b : Backend σ) (s : Session) (calls : List (Link σ × Operation)) :
    ∃ a, Protocol s.transaction? ((turns b s calls).flatMap Turn.sent) a := by
  induction calls generalizing s with
  | nil => exact ⟨_, .done⟩
  | cons call calls ih =>
      obtain ⟨l, o⟩ := call
      obtain ⟨a, ha⟩ := ih (turn b s l o).2
      exact ⟨a, (turn_conducted s l o).protocol.append ha⟩

/-- Whatever a session is asked and whatever its backend answers, its transactions are exclusive:
each call treats the active one as it should, and one that is ended is asked nothing afterwards. -/
theorem transactions_exclusive (b : Backend σ) (s : Session) (calls : List (Link σ × Operation)) :
    (∀ t ∈ turns b s calls, t.Orderly) ∧ Final ((turns b s calls).flatMap Turn.sent) := by
  obtain ⟨a, ha⟩ := turns_protocol b s calls
  refine ⟨?_, ha.final⟩
  clear ha
  induction calls generalizing s with
  | nil => simp [turns]
  | cons call calls ih =>
      obtain ⟨l, o⟩ := call
      exact List.forall_mem_cons.mpr ⟨(turn_conducted s l o).orderly, ih _⟩

end Session

end SqlMapping
