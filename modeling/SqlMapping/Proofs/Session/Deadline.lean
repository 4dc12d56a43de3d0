import SqlMapping.Proofs.Session.Erasure
import SqlMapping.Proofs.Session.Protocol
import SqlMapping.Session.Scripted

/-! # Deadlines of transactions

A commit reads the clock twice before it is sent: once to roll back a transaction that is over its
time, and once more for the request. -/

namespace SqlMapping

open Session

variable {σ : Type}

/-- A desk whose session has given up its transaction. -/
def Desk.idle (d : Desk σ) : Desk σ :=
  { d with session := { d.session with active := none } }

/-- What a commit sends and gives, by the readings of the clock. -/
inductive Commits (b : Backend σ) (a : ActiveTransaction) (s : σ) :
    List Exchange → Result Unit → Prop
  | expired {deadline : Nat} {reply : Result Unit} (hdeadline : a.deadline = some deadline)
      (first : deadline ≤ (b.now s).1) :
      Commits b a s [⟨.rollback a.transaction, some reply⟩] (Result.fail .deadlineExceeded)
  | overtaken {deadline : Nat} (hdeadline : a.deadline = some deadline)
      (first : (b.now s).1 < deadline) (second : deadline ≤ (b.now (b.now s).2).1) :
      Commits b a s [] (Result.within .committing (Result.fail .deadlineExceeded))
  | unbounded (hdeadline : a.deadline = none) {reply : Result Unit} :
      Commits b a s [⟨.commit a.transaction, some reply⟩] (Result.within .committing reply)
  | sent {deadline : Nat} (hdeadline : a.deadline = some deadline)
      (first : (b.now s).1 < deadline) (second : (b.now (b.now s).2).1 < deadline)
      {reply : Option (Result Unit)}
      (hreply : reply =
        (b.answerBy deadline (.commit a.transaction) (b.now (b.now s).2).2).1) :
      Commits b a s [⟨.commit a.transaction, reply⟩]
        (Result.within .committing (reply.getD (Result.fail .deadlineExceeded)))

/-- The deadline passes between the two readings of the clock. -/
def Overtaken (b : Backend σ) (a : ActiveTransaction) (s : σ) : Prop :=
  ∃ deadline, a.deadline = some deadline ∧
    (b.now s).1 < deadline ∧ deadline ≤ (b.now (b.now s).2).1

/-- The deadline passes while a commit waits for its answer. -/
def CutOff (b : Backend σ) (a : ActiveTransaction) (s : σ) : Prop :=
  ∃ deadline, a.deadline = some deadline ∧
    (b.now s).1 < deadline ∧ (b.now (b.now s).2).1 < deadline ∧
    (b.answerBy deadline (.commit a.transaction) (b.now (b.now s).2).2).1 = none

/-- The failure that a deadline has passed. -/
def Result.IsLate {α : Type} (r : Result α) : Prop :=
  ∃ activities, r = .error ⟨activities, .deadlineExceeded⟩

/-- One request is sent, which ends the transaction. -/
def Settled (a : ActiveTransaction) (sent : List Exchange) : Prop :=
  ∃ e, sent = [e] ∧ e.request.ends? = some a.transaction

namespace Commits

variable {b : Backend σ} {a : ActiveTransaction} {s : σ} {sent : List Exchange} {r : Result Unit}

theorem overtaken_iff (h : Commits b a s sent r) : Overtaken b a s ↔ sent = [] := by
  cases h with
  | expired hdeadline first => simp [Overtaken, hdeadline, Nat.not_lt.mpr first]
  | overtaken hdeadline first second => simp [Overtaken, hdeadline, first, second]
  | unbounded hdeadline => simp [Overtaken, hdeadline]
  | sent hdeadline first second => simp [Overtaken, hdeadline, first, second]

theorem eq_nil_or_settled (h : Commits b a s sent r) : sent = [] ∨ Settled a sent := by
  cases h with
  | overtaken => exact .inl rfl
  | expired => exact .inr ⟨_, rfl, rfl⟩
  | unbounded => exact .inr ⟨_, rfl, rfl⟩
  | sent => exact .inr ⟨_, rfl, rfl⟩

theorem settled_iff (h : Commits b a s sent r) : Settled a sent ↔ ¬ Overtaken b a s := by
  rw [h.overtaken_iff]
  constructor
  · rintro ⟨e, rfl, -⟩
    exact nofun
  · exact h.eq_nil_or_settled.resolve_left

/-- A commit that came too late, but was not sent, was rolled back. -/
theorem rolledBack_iff (h : Commits b a s sent r) :
    (Result.IsLate r → (∀ e ∈ sent, e.request ≠ .commit a.transaction) →
      ∃ e ∈ sent, e.request = .rollback a.transaction) ↔ ¬ Overtaken b a s := by
  rw [← h.settled_iff]
  constructor
  · intro hlate
    refine h.eq_nil_or_settled.resolve_left ?_
    rintro rfl
    cases h with
    | overtaken =>
        obtain ⟨e, he, -⟩ := hlate ⟨[.committing], rfl⟩ (by simp)
        cases he
  · rintro ⟨e, rfl, hends⟩ - hcommit
    refine ⟨e, List.mem_singleton_self e, ?_⟩
    exact (Request.eq_of_ends? hends).resolve_left (hcommit e (List.mem_singleton_self e))

theorem cutOff_iff (h : Commits b a s sent r) :
    CutOff b a s ↔ ∃ e, sent = [e] ∧ e.reply = none := by
  cases h with
  | expired hdeadline first => simp [CutOff, hdeadline, Nat.not_lt.mpr first]
  | overtaken hdeadline first second => simp [CutOff, hdeadline, Nat.not_lt.mpr second]
  | unbounded hdeadline => simp [CutOff, hdeadline]
  | sent hdeadline first second hreply => simp [CutOff, hdeadline, first, second, hreply]

end Commits

namespace Session

variable {b : Backend σ} {a : ActiveTransaction}

theorem takeActive_some {d : Desk σ} (h : d.session.active = some a) :
    takeActive d = (.ok a, d.idle) := by
  simp only [takeActive, h, Desk.idle]

theorem commit_eq {d : Desk σ} (h : d.session.active = some a) :
    commit b d =
      match expired b a.deadline d.idle with
      | (.ok true, d') =>
        (Result.fail .deadlineExceeded, (send b (.rollback a.transaction) d').2)
      | (.ok false, d') =>
        during .committing (sendWithin b a.deadline (.commit a.transaction)) d'
      | (.error e, d') => (.error e, d') := by
  rw [commit, bind_apply, takeActive_some h]
  dsimp only
  rw [bind_apply]
  rcases expired b a.deadline d.idle with ⟨_ | _ | _, _⟩ <;> rfl

theorem commit_commits {d : Desk (σ × List Exchange)} (h : d.session.active = some a) :
    (commit b.recording d).2.session.active = none ∧
      ∃ sent, (commit b.recording d).2.link.backend.2 = d.link.backend.2 ++ sent ∧
        Commits b a d.link.backend.1 sent (commit b.recording d).1 := by
  rw [commit_eq h]
  cases hdeadline : a.deadline with
  | none => exact ⟨rfl, _, rfl, .unbounded hdeadline⟩
  | some deadline =>
      have hexpired : expired b.recording (some deadline) d.idle =
          (.ok (decide (deadline ≤ (b.now d.link.backend.1).1)),
            (clock b.recording d.idle).2) := rfl
      rw [hexpired]
      by_cases hfirst : deadline ≤ (b.now d.link.backend.1).1
      · rw [decide_eq_true hfirst]
        exact ⟨rfl, _, rfl, .expired hdeadline hfirst⟩
      · rw [decide_eq_false hfirst]
        simp only [during, sendWithin_some]
        by_cases hsecond : deadline ≤ (b.now (b.now d.link.backend.1).2).1
        · have hlate : deadline ≤
              (b.recording.now (clock b.recording d.idle).2.link.backend).1 := hsecond
          rw [if_pos hlate]
          refine ⟨rfl, [], (List.append_nil _).symm, ?_⟩
          exact .overtaken hdeadline (Nat.not_le.mp hfirst) hsecond
        · have htimely : ¬ deadline ≤
              (b.recording.now (clock b.recording d.idle).2.link.backend).1 := hsecond
          rw [if_neg htimely, sendBy_recording]
          refine ⟨rfl, _, rfl, ?_⟩
          exact .sent hdeadline (Nat.not_le.mp hfirst) (Nat.not_le.mp hsecond) rfl

/-- A commit ends the transaction with one request unless its deadline passes between the readings
of the clock: then it fails for the deadline, and nothing is rolled back. The backend answers that
request unless the deadline passes before. -/
theorem commit_settles_iff (b : Backend σ) (a : ActiveTransaction) (s : Session) (l : Link σ) :
    let result := (commit b ⟨{ s with active := some a }, l⟩).1
    let sent := (commit b.recording ⟨{ s with active := some a }, l.recording⟩).2.link.backend.2
    (Settled a sent ↔ ¬ Overtaken b a l.backend) ∧
      ((Result.IsLate result → (∀ e ∈ sent, e.request ≠ .commit a.transaction) →
          ∃ e ∈ sent, e.request = .rollback a.transaction) ↔ ¬ Overtaken b a l.backend) ∧
      ((∃ e, sent = [e] ∧ e.request.ends? = some a.transaction ∧ e.reply ≠ none) ↔
        ¬ Overtaken b a l.backend ∧ ¬ CutOff b a l.backend) := by
  intro result sent
  have h : Commits b a l.backend sent result := by
    obtain ⟨-, sent', hsent, h⟩ := commit_commits (b := b)
      (d := ⟨{ s with active := some a }, l.recording⟩) rfl
    obtain rfl : sent = sent' := hsent
    rwa [(erases_commit b).fst] at h
  refine ⟨h.settled_iff, h.rolledBack_iff, ?_⟩
  rw [← h.settled_iff, h.cutOff_iff]
  constructor
  · rintro ⟨e, he, hends, hreply⟩
    refine ⟨⟨e, he, hends⟩, ?_⟩
    rintro ⟨e', he', hnone⟩
    obtain rfl := List.singleton_inj.mp (he.symm.trans he')
    exact hreply hnone
  · rintro ⟨⟨e, he, hends⟩, hcut⟩
    exact ⟨e, he, hends, fun hnone => hcut ⟨e, he, hnone⟩⟩

/-- A scripted backend whose clock moves with each reading. -/
def ticking : Backend Script :=
  { Script.backend with now := fun s => (s.clock, s.advance 1) }

/-- A session with a transaction that has to be over by an instant. -/
def openUntil (deadline : Nat) : Session :=
  { naming := .snake, sharesCache := false, sink := none, query := .empty .mysql
    active := some { transaction := ⟨0⟩, deadline := some deadline } }

theorem commit_unsettled_ticking :
    let result := (commit ticking ⟨openUntil 1, { backend := {} }⟩).1
    let sent := (commit ticking.recording
      ⟨openUntil 1, Link.recording { backend := {} }⟩).2.link.backend.2
    Result.IsLate result ∧ sent = [] ∧
      ¬ Settled { transaction := ⟨0⟩, deadline := some 1 } sent := by
  refine ⟨⟨[.committing], rfl⟩, rfl, ?_⟩
  have hsettled := commit_settles_iff ticking { transaction := ⟨0⟩, deadline := some 1 }
    (openUntil 1) { backend := {} }
  exact fun h => hsettled.1.mp h ⟨1, rfl, Nat.zero_lt_one, Nat.le_refl 1⟩

/-- A script that waits longer than the deadline sees neither a commit nor a rollback. -/
example :
    let d : Desk Script := ⟨openUntil 50, { backend := { delay := 100 } }⟩
    (commit Script.backend d).2.link.backend.events = [] := rfl

end Session

end SqlMapping
