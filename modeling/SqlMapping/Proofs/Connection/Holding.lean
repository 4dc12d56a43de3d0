import SqlMapping.Proofs.Connection.Run
import SqlMapping.Proofs.Session.Holding

/-! # Statements of a connection

Each statement that was prepared for a connection is held in the cache that is shared or in that of
one session, unless it was closed.
-/

namespace SqlMapping

open scoped List

variable {σ : Type}

namespace Hub

/-- The statements in the caches of a connection and of its sessions. -/
def held (h : Hub σ) : List Prepared :=
  h.link.cache.statements ++ h.sessions.flatMap fun s => s.cache.statements

/-- The session that runs a statement for an action. -/
def runner? (h : Hub σ) : Action → Option Session
  | .perform number _ => h.sessions[number]?
  | .exec .. => some h.connection.session
  | _ => none

/-- What an action does conserves statements. -/
structure Conserves (h : Hub (σ × List Exchange)) (a : Action) (h' : Hub (σ × List Exchange))
    (sent : List Exchange) : Prop where
  /-- What is prepared is held, and what is held no longer is closed. -/
  balance : h.held ++ preparedIn sent ~ h'.held ++ closedIn sent
  shared : h.link.cache.Lasts h'.link.cache
  /-- The sessions keep their order, and a new one holds nothing. -/
  own : ∃ former opened, h'.sessions = former ++ opened ∧
    List.Forall₂ (fun s s' => s.cache.Lasts s'.cache) h.sessions former ∧
      ∀ s ∈ opened, s.cache = []
  /-- One text at most is prepared, and it is in no cache that is looked into for it. -/
  missing : textsIn sent = [] ∨ ∃ sql, textsIn sent = [sql] ∧
    ∃ s, h.runner? a = some s ∧ ∀ c ∈ s.consulted h.link, c.get? sql = none

/-- The account of the statements that were prepared so far. -/
structure Accounted (h : Hub (σ × List Exchange)) : Prop where
  /-- A statement that was prepared is held or was closed, and once only. -/
  balance : preparedIn h.link.backend.2 ~ h.held ++ closedIn h.link.backend.2
  shared : h.link.cache.Distinct
  own : ∀ s ∈ h.sessions, s.cache.Distinct

variable {b : Backend σ} {h h' : Hub (σ × List Exchange)} {a : Action} {sent : List Exchange}

/-! ## Actions -/

theorem lasts_sessions (sessions : List Session) :
    List.Forall₂ (fun s s' : Session => s.cache.Lasts s'.cache) sessions sessions :=
  List.forall₂_same.mpr fun _ _ => .kept

/-- An action that prepares and closes nothing may open sessions. -/
theorem conserves_opened (opened : List Session) (hcache : h'.link.cache = h.link.cache)
    (hsessions : h'.sessions = h.sessions ++ opened) (hopened : ∀ s ∈ opened, s.cache = [])
    (hplain : Plain sent) : h.Conserves a h' sent where
  balance := by
    have hnone : (opened.flatMap fun s => s.cache.statements) = [] :=
      List.flatMap_eq_nil_iff.mpr fun s hs => by rw [hopened s hs]; rfl
    rw [hplain.preparedIn_eq, hplain.closedIn_eq, held, held, hcache, hsessions,
      List.flatMap_append, hnone, List.append_nil (h.sessions.flatMap _)]
  shared := hcache ▸ .kept
  own := ⟨h.sessions, opened, hsessions, lasts_sessions _, hopened⟩
  missing := .inl hplain.textsIn_eq

theorem conserves_openBegun (timeout : Option Nat) :
    ∃ sent, (h.act b.recording (.openBegun timeout)).link.backend.2 = h.link.backend.2 ++ sent ∧
      h.Conserves (.openBegun timeout) (h.act b.recording (.openBegun timeout)) sent := by
  have hbegin : Untouched ⟨h.connection.session, h.link⟩
      (Session.begin b.recording timeout ⟨h.connection.session, h.link⟩).2 :=
    Session.untouched_begin timeout
  rw [act_openBegun]
  rcases hd : Session.begin b.recording timeout ⟨h.connection.session, h.link⟩ with ⟨e | _, d⟩
  all_goals
    rw [hd] at hbegin
    obtain ⟨hstock, sent, hsent, hplain⟩ := hbegin
    obtain ⟨-, hcache, hown⟩ := Desk.stock_eq_iff.mp hstock
  · exact ⟨sent, hsent, conserves_opened [] hcache (List.append_nil _).symm (by simp)
      hplain⟩
  · refine ⟨sent, hsent, conserves_opened [d.session] hcache rfl ?_ hplain⟩
    exact List.forall_mem_singleton.mpr hown

theorem conserves_perform (number : Nat) (o : Operation) :
    ∃ sent, (h.act b.recording (.perform number o)).link.backend.2 = h.link.backend.2 ++ sent ∧
      h.Conserves (.perform number o) (h.act b.recording (.perform number o)) sent := by
  cases hs : h.sessions[number]? with
  | none =>
      have hact : h.act b.recording (.perform number o) = h := by simp [act, perform, hs]
      rw [hact]
      exact ⟨[], by simp, conserves_opened [] rfl (by simp) (by simp) .nil⟩
  | some s =>
      obtain ⟨sent, hsent, hhandles⟩ := Session.handled_perform b ⟨s, h.link⟩ o
      rcases hperform : Session.perform b.recording o ⟨s, h.link⟩ with ⟨outcome, d⟩
      rw [hperform] at hsent hhandles
      have hconserves := hhandles.conserves
      obtain ⟨hlength, hget⟩ := List.getElem?_eq_some_iff.mp hs
      -- The caches of the sessions before and after the one that acts do not change, so that its
      -- own balance is that of the connection.
      obtain ⟨before, after, hsplit, hset⟩ : ∃ before after,
          h.sessions = before ++ s :: after ∧
            h.sessions.set number d.session = before ++ d.session :: after := by
        obtain ⟨before, after, hsplit, -, hset⟩ := List.exists_of_set hlength
        exact ⟨before, after, hget ▸ hsplit, hset⟩
      have hact : h.act b.recording (.perform number o) =
          { h with sessions := before ++ d.session :: after, link := d.link } := by
        simp only [act, perform, hs, hperform, hset]
      rw [hact]
      refine ⟨sent, hsent, ?_, hconserves.shared, ?_, ?_⟩
      · have hbalance := List.perm_iff_count.mp hconserves.balance
        refine List.perm_iff_count.mpr fun p => ?_
        have hcount := hbalance p
        simp only [Desk.held, held, hsplit, List.flatMap_append, List.flatMap_cons,
          List.count_append] at hcount ⊢
        omega
      · refine ⟨_, [], (List.append_nil _).symm, ?_, by simp⟩
        rw [hsplit]
        exact List.rel_append (lasts_sessions before) (.cons hconserves.own (lasts_sessions after))
      · refine hconserves.missing.imp_right ?_
        rintro ⟨sql, htexts, hmissing⟩
        exact ⟨sql, htexts, s, hs, Session.cached?_eq_none.mp hmissing⟩

/-- The session of its own that runs a statement holds nothing in the end. -/
theorem conserves_exec (sql : String) (values : List Value) :
    ∃ sent, (h.act b.recording (.exec sql values)).link.backend.2 = h.link.backend.2 ++ sent ∧
      h.Conserves (.exec sql values) (h.act b.recording (.exec sql values)) sent := by
  obtain ⟨sent, hsent, hhandles⟩ : Handled ⟨h.connection.session, h.link⟩
      (Session.execute b.recording sql values ⟨h.connection.session, h.link⟩).2 :=
    Session.handled_execute sql values
  have hconserves := hhandles.conserves
  obtain ⟨hactive, -⟩ : Stays ⟨h.connection.session, h.link⟩
      (Session.execute b.recording sql values ⟨h.connection.session, h.link⟩).2 :=
    Session.stays_execute sql values
  have hact : h.act b.recording (.exec sql values) =
      { h with
        link := (Session.close b.recording
          (Session.execute b.recording sql values ⟨h.connection.session, h.link⟩).2).2.link } := rfl
  -- No transaction is active in it, so that closing it closes all that it holds.
  rw [hact, Session.close_eq, if_neg (by rw [hactive]; simp [Connection.session])]
  generalize (Session.execute b.recording sql values ⟨h.connection.session, h.link⟩).2 = d at *
  obtain ⟨closing, hclosing, hcloses⟩ :=
    closeAll_closes b d.session.cache.statements d.link.backend
  refine ⟨sent ++ closing, ?_, ?_, hconserves.shared, ?_, ?_⟩
  · rw [← List.append_assoc, ← hsent]
    exact hclosing
  · have hbalance := List.perm_iff_count.mp hconserves.balance
    refine List.perm_iff_count.mpr fun p => ?_
    have hcount := hbalance p
    have hlink : (Session.closeCache b.recording d).2.link.cache = d.link.cache := rfl
    have hempty : h.connection.session.cache.statements = [] := rfl
    simp only [Desk.held, held, hlink, hempty, preparedIn_append, closedIn_append,
      hcloses.preparedIn_eq, hcloses.closedIn_eq, List.count_append, List.count_nil] at hcount ⊢
    omega
  · exact ⟨h.sessions, [], (List.append_nil _).symm, lasts_sessions _, by simp⟩
  · rw [textsIn_append, hcloses.textsIn_eq, List.append_nil]
    refine hconserves.missing.imp_right ?_
    rintro ⟨t, htexts, hmissing⟩
    exact ⟨t, htexts, _, rfl, Session.cached?_eq_none.mp hmissing⟩

theorem conserves_close :
    ∃ sent, (h.act b.recording .close).link.backend.2 = h.link.backend.2 ++ sent ∧
      h.Conserves .close (h.act b.recording .close) sent := by
  obtain ⟨closing, hclosing, hcloses⟩ := closeAll_closes b h.link.cache.statements h.link.backend
  let s := (StatementCache.closeAll b.recording h.link.cache.statements h.link.backend).2
  refine ⟨closing ++ [⟨.close, some (b.answer .close s.1).1⟩], ?_, ?_, .emptied, ?_, .inl ?_⟩
  · rw [← List.append_assoc, ← hclosing]
    rfl
  · have hprepared : preparedIn [⟨.close, some (b.answer .close s.1).1⟩] = [] := rfl
    have hclosed : closedIn [⟨.close, some (b.answer .close s.1).1⟩] = [] := rfl
    have hheld : (h.act b.recording .close).held =
        h.sessions.flatMap fun s => s.cache.statements := rfl
    rw [preparedIn_append, closedIn_append, hprepared, hclosed, hcloses.preparedIn_eq,
      hcloses.closedIn_eq, hheld, held, List.append_nil, List.append_nil, List.append_nil]
    exact List.perm_append_comm
  · exact ⟨h.sessions, [], (List.append_nil _).symm, lasts_sessions _, by simp⟩
  · rw [textsIn_append, hcloses.textsIn_eq]
    rfl

/-- Every action conserves statements. -/
theorem act_conserves (b : Backend σ) (h : Hub (σ × List Exchange)) (a : Action) :
    ∃ sent, (h.act b.recording a).link.backend.2 = h.link.backend.2 ++ sent ∧
      h.Conserves a (h.act b.recording a) sent := by
  cases a with
  | openSession =>
      exact ⟨[], (List.append_nil _).symm, conserves_opened [h.connection.session] rfl rfl
        (List.forall_mem_singleton.mpr rfl) .nil⟩
  | openOn table =>
      exact ⟨[], (List.append_nil _).symm, conserves_opened [h.connection.sessionOn table] rfl rfl
        (List.forall_mem_singleton.mpr rfl) .nil⟩
  | openBegun timeout => exact conserves_openBegun timeout
  | perform number o => exact conserves_perform number o
  | exec sql values => exact conserves_exec sql values
  | rename | useNaming | observe =>
      exact ⟨[], (List.append_nil _).symm, conserves_opened [] rfl
        (List.append_nil _).symm (by simp) .nil⟩
  | close => exact conserves_close

/-! ## Runs -/

theorem accounted_start (c : Connection) (s : σ) : Accounted (start c (s, [])) where
  balance := .nil
  shared := List.nodup_nil
  own s hs := by cases hs

theorem Accounted.conserved (haccounted : h.Accounted) (hconserves : h.Conserves a h' sent)
    (hsent : h'.link.backend.2 = h.link.backend.2 ++ sent) : h'.Accounted where
  balance := by
    have hbalance := List.perm_iff_count.mp haccounted.balance
    have hstep := List.perm_iff_count.mp hconserves.balance
    refine List.perm_iff_count.mpr fun p => ?_
    have hcount := hbalance p
    have hcount' := hstep p
    simp only [hsent, preparedIn_append, closedIn_append, List.count_append] at hcount hcount' ⊢
    omega
  shared := hconserves.shared.distinct haccounted.shared
  own s' hs' := by
    obtain ⟨former, opened, hsessions, hlasts, hopened⟩ := hconserves.own
    rw [hsessions] at hs'
    rcases List.mem_append.mp hs' with hs' | hs'
    · obtain ⟨s, hs, hcache⟩ := exists_left_of_mem hlasts hs'
      exact hcache.distinct (haccounted.own s hs)
    · rw [hopened s' hs']
      exact List.nodup_nil

/-- The account holds after every run. -/
theorem accounted_run (haccounted : h.Accounted) (actions : List Action) :
    (actions.foldl (act b.recording) h).Accounted := by
  induction actions generalizing h with
  | nil => exact haccounted
  | cons a as ih =>
      obtain ⟨sent, hsent, hconserves⟩ := act_conserves b h a
      exact ih (haccounted.conserved hconserves hsent)

/-! ## Closing -/

/-- A cache that is closed is empty, and each of its statements was asked to close, whatever failed
before. -/
structure ClosesCaches (b : Backend σ) : Prop where
  own : ∀ d : Desk (σ × List Exchange), ∃ sent,
    (Session.closeCache b.recording d).2.link.backend.2 = d.link.backend.2 ++ sent ∧
      Closes d.session.cache.statements (Session.closeCache b.recording d).1 sent ∧
        (Session.closeCache b.recording d).2.session.cache = []
  /-- The failure of the backend goes before those of the statements. -/
  shared : ∀ (c : Connection) (l : Link (σ × List Exchange)),
    ∃ (sent : List Exchange) (cached reply : Result Unit),
      (c.close b.recording l).2.backend.2 = l.backend.2 ++ sent ++ [⟨.close, some reply⟩] ∧
        Closes l.cache.statements cached sent ∧
          (c.close b.recording l).1 =
            (Result.within (.closing c.name) reply).bind (fun _ => cached) ∧
          (c.close b.recording l).2.cache = []

theorem closesCaches (b : Backend σ) : ClosesCaches b where
  own d := by
    obtain ⟨sent, hsent, hcloses⟩ := closeAll_closes b d.session.cache.statements d.link.backend
    exact ⟨sent, hsent, hcloses, rfl⟩
  shared c l := by
    obtain ⟨sent, hsent, hcloses⟩ := closeAll_closes b l.cache.statements l.backend
    refine ⟨sent, _, (b.answer .close (StatementCache.closeAll b.recording l.cache.statements
      l.backend).2.1).1, ?_, hcloses, rfl, rfl⟩
    rw [← hsent]
    rfl

/-- However a connection and its sessions are used, each statement that was prepared is held in one
cache or was closed, and nothing that is held is replaced or prepared once more. -/
theorem statements_conserved (b : Backend σ) (c : Connection) (s : σ) (actions : List Action) :
    let h := actions.foldl (act b.recording) (start c (s, []))
    h.forget = actions.foldl (act b) (start c s) ∧ h.Accounted ∧
      ((h.held ++ closedIn h.link.backend.2).Nodup ↔ (preparedIn h.link.backend.2).Nodup) ∧
      (∀ a, ∃ sent, (h.act b.recording a).link.backend.2 = h.link.backend.2 ++ sent ∧
        h.Conserves a (h.act b.recording a) sent) ∧
      ClosesCaches b := by
  have haccounted := accounted_run (b := b) (accounted_start c s) actions
  exact ⟨(forget_run b _ actions).symm, haccounted, haccounted.balance.nodup_iff.symm,
    act_conserves b _, closesCaches b⟩

end Hub

end SqlMapping
