import SqlMapping.Proofs.Session.Compiled
import SqlMapping.Proofs.Session.Recording

/-! # Closing statements

Statements are closed one by one, those after a failure too.
-/

namespace SqlMapping

variable {σ : Type}

/-- The statement that a request closes. -/
def Request.closes? : Request → Option Prepared
  | closeStatement p => some p
  | _ => none

/-- The failure that a request was answered with. -/
def Exchange.failure? (e : Exchange) : Option Failure :=
  e.reply.bind Result.failure?

/-- The statements that are closed, whatever the answer is. -/
def closedIn (sent : List Exchange) : List Prepared :=
  sent.filterMap fun e => e.request.closes?

@[simp] theorem closedIn_nil : closedIn [] = [] := rfl

@[simp] theorem closedIn_append (sent sent' : List Exchange) :
    closedIn (sent ++ sent') = closedIn sent ++ closedIn sent' :=
  List.filterMap_append

/-- What is sent closes some statements, each once, and the first failure is the result. -/
structure Closes (ps : List Prepared) (r : Result Unit) (sent : List Exchange) : Prop where
  requests : sent.map Exchange.request = ps.map Request.closeStatement
  failure : r.failure? = sent.findSome? Exchange.failure?

namespace Closes

variable {ps : List Prepared} {r : Result Unit} {sent : List Exchange}

theorem closedIn_eq (h : Closes ps r sent) : closedIn sent = ps := by
  calc closedIn sent = (sent.map Exchange.request).filterMap Request.closes? := by
        rw [List.filterMap_map]
        rfl
    _ = ps := by
        rw [h.requests, List.filterMap_map]
        exact List.filterMap_some

theorem exists_closeStatement (h : Closes ps r sent) {e : Exchange} (he : e ∈ sent) :
    ∃ p, e.request = .closeStatement p := by
  obtain ⟨p, -, hp⟩ := List.mem_map.mp (h.requests ▸ List.mem_map_of_mem (f := Exchange.request) he)
  exact ⟨p, hp.symm⟩

end Closes

theorem closeAll_closes (b : Backend σ) (ps : List Prepared) (s : σ × List Exchange) :
    ∃ sent, (StatementCache.closeAll b.recording ps s).2.2 = s.2 ++ sent ∧
      Closes ps (StatementCache.closeAll b.recording ps s).1 sent := by
  induction ps generalizing s with
  | nil => exact ⟨[], by simp [StatementCache.closeAll], rfl, rfl⟩
  | cons p ps ih =>
      obtain ⟨sent, hsent, hclose⟩ := ih (b.recording.answer (.closeStatement p) s).2
      obtain ⟨reply, s', hanswer, hlog⟩ : ∃ (reply : Result Unit) (s' : σ × List Exchange),
          b.recording.answer (.closeStatement p) s = (reply, s') ∧
            s'.2 = s.2 ++ [⟨.closeStatement p, some reply⟩] := ⟨_, _, rfl, rfl⟩
      rw [hanswer] at hsent hclose
      refine ⟨⟨.closeStatement p, some reply⟩ :: sent, ?_, ?_, ?_⟩
      · simp only [StatementCache.closeAll, hanswer]
        split <;> simp [hsent, hlog]
      · simp [hclose.requests]
      · simp only [StatementCache.closeAll, hanswer]
        cases reply with
        | error e => rfl
        | ok _ => exact hclose.failure

end SqlMapping
