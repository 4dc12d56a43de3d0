import SqlMapping.Proofs.Session.Closing
import SqlMapping.Proofs.Session.Statement

/-! # Operations and their statements

Each operation of a session runs the statement it asks for, as far as checksums tell. -/

namespace SqlMapping.Session

variable {σ : Type} {T : String → Prop} {asked : Option String} {b : Backend σ}
  {d : Desk (σ × List Exchange)}

/-! ## Transactions and closing -/

theorem follows_begin (timeout : Option Nat) :
    Follows T (Request.Matches T asked) d (begin b.recording timeout d).2 := by
  refine follows_current ?_
  split
  · exact .refl
  · refine follows_bind (follows_during (follows_send b nofun _)) ?_
    intro _ transaction _
    cases timeout with
    | none => exact follows_bind (w := pure none) .refl fun _ _ _ => .of_unchanged rfl rfl rfl
    | some ms =>
        exact follows_bind (w := (some <| · + ms) <$> clock b.recording) (follows_clock b _)
          fun _ _ _ => .of_unchanged rfl rfl rfl

theorem follows_takeActive : Follows T (Request.Matches T asked) d (takeActive d).2 := by
  unfold takeActive
  split <;> exact .of_unchanged rfl rfl rfl

theorem follows_expired (deadline : Option Nat) :
    Follows T (Request.Matches T asked) d (expired b.recording deadline d).2 := by
  cases deadline with
  | none => exact .refl
  | some deadline => exact follows_clock b d

theorem follows_commit : Follows T (Request.Matches T asked) d (commit b.recording d).2 := by
  refine follows_bind follows_takeActive ?_
  intro _ a _
  refine follows_bind (follows_expired a.deadline) ?_
  intro _ late _
  split
  · exact follows_send b (r := .rollback a.transaction) nofun _
  · exact follows_during (follows_sendWithin b nofun a.deadline _)

theorem follows_rollback : Follows T (Request.Matches T asked) d (rollback b.recording d).2 :=
  follows_bind follows_takeActive fun _ _ _ => follows_during (follows_send b nofun _)

/-- Closing statements asks for nothing else. -/
theorem closeAll_recording (ps : List Prepared) (s : σ × List Exchange) :
    ∃ sent, (StatementCache.closeAll b.recording ps s).2.2 = s.2 ++ sent ∧
      ∀ e ∈ sent, ∃ p, e.request = .closeStatement p := by
  obtain ⟨sent, hsent, hclose⟩ := closeAll_closes b ps s
  exact ⟨sent, hsent, fun _ => hclose.exists_closeStatement⟩

theorem follows_closeCache :
    Follows T (Request.Matches T asked) d (closeCache b.recording d).2 := by
  rintro ⟨htidy, -⟩
  obtain ⟨sent, hsent, hclose⟩ :=
    closeAll_recording (b := b) d.session.cache.statements d.link.backend
  refine ⟨⟨htidy, .empty⟩, sent, hsent, fun e he p hp => ?_⟩
  obtain ⟨q, hq⟩ := hclose e he
  rw [hq] at hp
  cases hp

theorem follows_close : Follows T (Request.Matches T asked) d (close b.recording d).2 := by
  refine follows_current ?_
  split
  · exact follows_bind follows_rollback fun _ _ _ => follows_closeCache
  · exact follows_closeCache

/-! ## Operations -/

theorem asked_plan (plan : Result Plan)
    (statement : Plan → Result (Sql × List Value)) :
    Plan.asked plan statement = (Plan.compiled plan statement).toOption.map Prod.fst := by
  cases plan with
  | error e => rfl
  | ok p =>
      simp only [Plan.asked, Plan.compiled, bind, Except.bind, Except.toOption, Option.bind]
      cases statement p <;> rfl

theorem asked_worded {s : Session} (r : Result (Sql × List Value)) :
    s.compiled? r = (s.worded r).toOption.map Prod.fst := by
  cases r <;> rfl

/-- The text that an operation asks for is that of the statement it compiles. -/
theorem asked_eq (s : Session) (o : Operation) :
    s.asked o = (s.compiled o).bind fun r => r.toOption.map Prod.fst := by
  cases o with
  | find id o columns => exact asked_plan _ _
  | first o columns => exact asked_plan _ _
  | all fresh columns =>
      simp only [asked, compiled, Option.bind_some]
      cases (s.planFor (some s.query.aliases) columns fresh).1 with
      | error e => rfl
      | ok p =>
          simp only [bind, Except.bind, Except.toOption, Option.bind]
          cases p.query.selectSql <;> rfl
  | findRecord id primaryKey columns =>
      simp only [asked, compiled, Query.check]
      cases s.query.failure <;> cases s.query.table.isEmpty <;> cases primaryKey.isEmpty <;> rfl
  | firstRecord => exact asked_worded _
  | allRecords =>
      simp only [asked, compiled]
      cases s.query.selectSql <;> rfl
  | insert p => exact asked_worded _
  | update p => exact asked_worded _
  | delete => exact asked_worded _
  | _ => rfl

theorem Runs.follows {r : Result (String × List Value)} {failure : Option Failure}
    {d' : Desk (σ × List Exchange)} (hb : b.Honest) (h : Runs b.recording d r failure d')
    (hT : ∀ t, r.toOption.map Prod.fst = some t → T t) :
    Follows T (Request.Matches T (r.toOption.map Prod.fst)) d d' := by
  cases h with
  | refused => exact .of_unchanged rfl rfl rfl
  | ran q _ h =>
      cases h with
      | query => exact follows_runQuery (d := d.withQuery q) hb (hT _ rfl) _
      | exec => exact follows_execute (d := d.withQuery q) hb (hT _ rfl) _

/-- What an operation sends runs the statement it asks for, up to the checksum of its text. -/
theorem follows_perform (hb : b.Honest) (o : Operation)
    (hT : ∀ t, d.session.asked o = some t → T t) :
    Follows T (Request.Matches T (d.session.asked o)) d (perform b.recording o d).2 := by
  rw [asked_eq] at hT ⊢
  cases hcompiled : d.session.compiled o with
  | some r =>
      rw [hcompiled] at hT
      exact (perform_runs _ o d r hcompiled).follows hb hT
  | none =>
      cases hcontrols : o.controls with
      | false =>
          obtain ⟨q, hq⟩ := perform_uncompiled b.recording o d hcompiled hcontrols
          rw [hq]
          exact .of_unchanged rfl rfl rfl
      | true =>
          cases o with
          | begin timeout => exact follows_begin timeout
          | commit => exact follows_commit
          | rollback => exact follows_rollback
          | close => exact follows_close
          | _ => cases hcontrols

end SqlMapping.Session
