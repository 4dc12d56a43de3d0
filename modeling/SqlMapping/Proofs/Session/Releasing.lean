import SqlMapping.Proofs.Session.Erasure
import SqlMapping.Proofs.Session.Transactions
import SqlMapping.Session.Scripted

/-! # Releasing what a session holds

Closing a session rolls back the transaction that is active, and closes the statements of the
session once this has succeeded. A rollback that fails ends the closing: the session then keeps its
statements. -/

namespace SqlMapping

open Session

variable {σ : Type}

/-- A session that is left with nothing, with each of its statements closed once. -/
structure Session.Releases (s after : Session) (sent : List Exchange) : Prop where
  idle : after.active = none
  emptied : after.cache = []
  closed : closedIn sent = s.cache.statements

/-- A transaction is active, and the backend fails to roll it back. -/
def Session.RollbackFails (b : Backend σ) (s : Session) (state : σ) : Prop :=
  ∃ a e, s.active = some a ∧ (b.answer (.rollback a.transaction) state).1 = .error e

namespace Closing

variable {b : Backend σ} {s after : Session} {state : σ} {sent : List Exchange} {r : Result Unit}

/-- Once the transaction is over, all statements are closed and the first failure is reported. -/
theorem closes_of_not_fails (h : Closing b s state sent r after)
    (hfails : ¬ s.RollbackFails b state) :
    after.cache = [] ∧ closedIn sent = s.cache.statements ∧
      r.failure? = sent.findSome? Exchange.failure? := by
  cases h with
  | idle _ hcloses => exact ⟨rfl, hcloses.closedIn_eq, hcloses.failure⟩
  | rolledBack _ _ hcloses => exact ⟨rfl, hcloses.closedIn_eq, hcloses.failure⟩
  | stuck hactive hreply => exact absurd ⟨_, _, hactive, hreply⟩ hfails

/-- A rollback that fails is reported, and leaves all statements with the session. -/
theorem keeps_of_fails (h : Closing b s state sent r after) (hfails : s.RollbackFails b state) :
    after.cache = s.cache ∧ closedIn sent = [] ∧
      ∃ e : Failure, r = .error (e.within .rollingBack) := by
  obtain ⟨a, e, hactive, hreply⟩ := hfails
  cases h with
  | idle hnone =>
      rw [hactive] at hnone
      cases hnone
  | rolledBack hsome hok =>
      obtain rfl := Option.some.inj (hsome.symm.trans hactive)
      cases hok.symm.trans hreply
  | stuck => exact ⟨rfl, rfl, _, rfl⟩

theorem releases_iff (h : Closing b s state sent r after) :
    s.Releases after sent ↔ ¬ (s.RollbackFails b state ∧ s.cache ≠ []) := by
  constructor
  · rintro hreleases ⟨hfails, hcache⟩
    exact hcache ((h.keeps_of_fails hfails).1 ▸ hreleases.emptied)
  · intro hnot
    by_cases hfails : s.RollbackFails b state
    · obtain ⟨hkept, hclosed, -⟩ := h.keeps_of_fails hfails
      have hempty : s.cache = [] := not_not.mp fun hcache => hnot ⟨hfails, hcache⟩
      refine ⟨h.idle_after, hkept.trans hempty, ?_⟩
      rw [hclosed, hempty]
      rfl
    · obtain ⟨hemptied, hclosed, -⟩ := h.closes_of_not_fails hfails
      exact ⟨h.idle_after, hemptied, hclosed⟩

end Closing

namespace Session

/-- Closing a session leaves it with no transaction and no statement, and each statement was asked
to close, unless the rollback of its transaction fails while it holds some: then no statement is
closed, and it holds all of them still. -/
theorem close_releases_iff (b : Backend σ) (s : Session) (l : Link σ) :
    let outcome := close b ⟨s, l⟩
    let sent := (close b.recording ⟨s, l.recording⟩).2.link.backend.2
    outcome.2.session.active = none ∧
      (s.Releases outcome.2.session sent ↔ ¬ (s.RollbackFails b l.backend ∧ s.cache ≠ [])) ∧
      (s.RollbackFails b l.backend →
        outcome.2.session.cache = s.cache ∧ closedIn sent = [] ∧
          ∃ e : Failure, outcome.1 = .error (e.within .rollingBack)) ∧
      (¬ s.RollbackFails b l.backend →
        Result.failure? outcome.1 = sent.findSome? Exchange.failure?) := by
  intro outcome sent
  have h : Closing b s l.backend sent outcome.1 outcome.2.session := by
    obtain ⟨sent', hsent, h⟩ := close_closing b ⟨s, l.recording⟩
    obtain rfl : sent = sent' := hsent
    have hplain := erases_close b ⟨s, l.recording⟩
    rw [l.forget_recording] at hplain
    rwa [show outcome = _ from hplain]
  exact ⟨h.idle_after, h.releases_iff, h.keeps_of_fails, fun hfails =>
    (h.closes_of_not_fails hfails).2.2⟩

/-- A session with a transaction and a statement. -/
def engaged : Session :=
  { naming := .snake, sharesCache := false, sink := none, query := .empty .mysql
    cache := [(Text.checksum "select 1", ⟨0, "select 1"⟩)]
    active := some { transaction := ⟨0⟩, deadline := none } }

/-- Its statement is not closed if its rollback fails, and is closed otherwise. -/
theorem close_leaks_engaged :
    let failing : Link Script := { backend := { failing := [.rollback] } }
    let sent (l : Link Script) :=
      (close Script.backend.recording ⟨engaged, l.recording⟩).2.link.backend.2
    engaged.RollbackFails Script.backend failing.backend ∧
      closedIn (sent failing) = [] ∧
      ¬ engaged.Releases (close Script.backend ⟨engaged, failing⟩).2.session (sent failing) ∧
      engaged.Releases (close Script.backend ⟨engaged, { backend := {} }⟩).2.session
        (sent { backend := {} }) ∧
      Result.failure? (close Script.backend ⟨engaged, { backend := {} }⟩).1 =
        (sent { backend := {} }).findSome? Exchange.failure? := by
  intro failing sent
  have hfails : engaged.RollbackFails Script.backend failing.backend := ⟨_, _, rfl, rfl⟩
  have hsucceeds : ¬ engaged.RollbackFails Script.backend {} := by
    rintro ⟨_, _, ⟨⟩, ⟨⟩⟩
  obtain ⟨-, hreleases, hkept, -⟩ := close_releases_iff Script.backend engaged failing
  obtain ⟨-, hreleases', -, hfirst⟩ :=
    close_releases_iff Script.backend engaged { backend := {} }
  exact ⟨hfails, (hkept hfails).2.1, fun h => hreleases.mp h ⟨hfails, List.cons_ne_nil _ _⟩,
    hreleases'.mpr fun h => hsucceeds h.1, hfirst hsucceeds⟩

end Session

end SqlMapping
