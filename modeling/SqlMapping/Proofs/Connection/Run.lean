import SqlMapping.Connection.Hub
import SqlMapping.Proofs.Session.Erasure
import SqlMapping.Proofs.Session.Operation

/-! # Runs of a connection

What a connection and its sessions are asked, in any order, and what they send for it. -/

namespace SqlMapping

variable {σ : Type}

/-- One thing asked of a connection or of one of its sessions. -/
inductive Action where
  | openSession
  | openOn (table : String)
  | openBegun (timeout : Option Nat)
  | perform (number : Nat) (o : Operation)
  | exec (sql : String) (values : List Value)
  | rename (name : String)
  | useNaming (naming : Naming)
  /-- Statements of the sessions to come are shown to the backend. -/
  | observe
  | close

/-- What an action sends, beside the text it asks for. -/
structure Report where
  asked : Option String
  requests : List Request

namespace Hub

def start (c : Connection) (s : σ) : Hub σ :=
  { connection := c, link := { backend := s } }

def act (b : Backend σ) (h : Hub σ) : Action → Hub σ
  | .openSession => (openSession h).2
  | .openOn table => (openOn table h).2
  | .openBegun timeout => (openBegun b timeout h).2
  | .perform number o => (perform b number o h).2
  | .exec sql values => (onLink (fun c => c.exec b sql values) h).2
  | .rename name => { h with connection := { h.connection with name } }
  | .useNaming naming => { h with connection := { h.connection with naming } }
  | .observe => { h with connection := { h.connection with sink := some .observer } }
  | .close => (onLink (fun c => c.close b) h).2

/-- The text of the statement that an action asks for. -/
def asked (h : Hub σ) : Action → Option String
  | .perform number o => h.sessions[number]?.bind (·.asked o)
  | .exec sql _ => some sql
  | _ => none

def requests (h : Hub (σ × List Exchange)) : List Request :=
  h.link.backend.2.map Exchange.request

/-- The reports of some actions, each on what it sends itself. -/
def reports (b : Backend σ) (h : Hub (σ × List Exchange)) : List Action → List Report
  | [] => []
  | a :: as =>
    let h' := h.act b.recording a
    ⟨h.asked a, h'.requests.drop h.requests.length⟩ :: reports b h' as

def Tidy (T : String → Prop) (h : Hub σ) : Prop :=
  h.link.cache.Tidy T ∧ ∀ s ∈ h.sessions, s.cache.Tidy T

variable {T : String → Prop} {b : Backend σ} {h : Hub (σ × List Exchange)}

theorem Tidy.add (ht : h.Tidy T) {s : Session} (hs : s.cache.Tidy T) : (add s h).2.Tidy T := by
  refine ⟨ht.1, fun s' hs' => ?_⟩
  rcases List.mem_append.mp hs' with hs' | hs'
  · exact ht.2 s' hs'
  · rw [List.mem_singleton.mp hs']
    exact hs

theorem act_openBegun (b : Backend σ) (h : Hub σ) (timeout : Option Nat) :
    h.act b (.openBegun timeout) =
      match Session.begin b timeout ⟨h.connection.session, h.link⟩ with
      | (.ok _, d) => (add d.session { h with link := d.link }).2
      | (.error _, d) => { h with link := d.link } := by
  simp only [act, openBegun, onLink, Connection.begin, bind, StateT.bind]
  generalize Session.begin b timeout ⟨h.connection.session, h.link⟩ = begun
  rcases begun with ⟨_ | _, _⟩ <;> rfl

/-! ## Records forgotten -/

/-- A hub without the record of its requests. -/
def forget (h : Hub (σ × List Exchange)) : Hub σ :=
  { connection := h.connection, link := h.link.forget, sessions := h.sessions }

theorem forget_act (b : Backend σ) (h : Hub (σ × List Exchange)) (a : Action) :
    h.forget.act b a = (h.act b.recording a).forget := by
  cases a with
  | openBegun timeout =>
      have hbegin : Session.begin b timeout ⟨h.connection.session, h.link.forget⟩ = _ :=
        Session.erases_begin b timeout ⟨h.connection.session, h.link⟩
      simp only [act_openBegun, forget, hbegin]
      rcases Session.begin b.recording timeout ⟨h.connection.session, h.link⟩ with ⟨_ | _, _⟩ <;>
        rfl
  | perform number o =>
      cases hs : h.sessions[number]? with
      | none => simp [act, perform, hs, forget]
      | some s =>
          have hperform : Session.perform b o ⟨s, h.link.forget⟩ = _ :=
            Session.erases_perform b o ⟨s, h.link⟩
          simp only [act, perform, forget, hs, hperform]
          rfl
  | exec sql values =>
      have hexecute : Session.execute b sql values ⟨h.connection.session, h.link.forget⟩ = _ :=
        Session.erases_execute b sql values ⟨h.connection.session, h.link⟩
      simp only [act, onLink, Connection.exec, forget, hexecute, Session.erases_close b _]
      rfl
  | close =>
      have hcached := Session.forget_closeAll b h.link.cache.statements h.link.backend
      simp only [act, onLink, Connection.close, forget, Link.forget, hcached]
      rfl
  | _ => rfl

/-- A run on a recording backend is one on the backend that it records. -/
theorem forget_run (b : Backend σ) (h : Hub (σ × List Exchange)) (actions : List Action) :
    actions.foldl (act b) h.forget = (actions.foldl (act b.recording) h).forget := by
  induction actions generalizing h with
  | nil => rfl
  | cons a as ih => rw [List.foldl_cons, List.foldl_cons, forget_act, ih]

/-! ## Statements that run -/

/-- What an action sends runs the statement it asks for, up to the checksum of its text. -/
theorem act_follows (hb : b.Honest) (ht : h.Tidy T) (a : Action)
    (hT : ∀ t, h.asked a = some t → T t) :
    (h.act b.recording a).Tidy T ∧
      Sends (Request.Matches T (h.asked a)) h.link (h.act b.recording a).link := by
  cases a with
  | openSession => exact ⟨ht.add .empty, .refl⟩
  | openOn table => exact ⟨ht.add .empty, .refl⟩
  | openBegun timeout =>
      have hbegin : Follows T (Request.Matches T none) ⟨h.connection.session, h.link⟩
          (Session.begin b.recording timeout ⟨h.connection.session, h.link⟩).2 :=
        Session.follows_begin timeout
      obtain ⟨⟨hlink, hsession⟩, hsends⟩ := hbegin ⟨ht.1, .empty⟩
      rw [act_openBegun]
      rcases hd : Session.begin b.recording timeout ⟨h.connection.session, h.link⟩ with
        ⟨e | _, d⟩
      · rw [hd] at hlink hsends
        exact ⟨⟨hlink, ht.2⟩, hsends⟩
      · rw [hd] at hlink hsession hsends
        have ht' : Tidy T { h with link := d.link } := ⟨hlink, ht.2⟩
        exact ⟨ht'.add hsession, hsends⟩
  | perform number o =>
      cases hs : h.sessions[number]? with
      | none =>
          have hact : h.act b.recording (.perform number o) = h := by simp [act, perform, hs]
          rw [hact]
          exact ⟨ht, .refl⟩
      | some s =>
          have hasked : h.asked (.perform number o) = s.asked o := by simp [asked, hs]
          rw [hasked] at hT ⊢
          obtain ⟨⟨hlink, hsession⟩, hsends⟩ :=
            Session.follows_perform (d := ⟨s, h.link⟩) hb o hT
              ⟨ht.1, ht.2 s (List.mem_of_getElem? hs)⟩
          simp only [act, perform, hs]
          -- The other sessions keep the caches they had.
          refine ⟨⟨hlink, fun s' hs' => ?_⟩, hsends⟩
          rcases List.mem_or_eq_of_mem_set hs' with hs' | rfl
          · exact ht.2 s' hs'
          · exact hsession
  | exec sql values =>
      have hexec := Session.follows_execute (d := ⟨h.connection.session, h.link⟩) hb (hT sql rfl)
        values
      obtain ⟨⟨hlink, -⟩, hsends⟩ := hexec.trans Session.follows_close ⟨ht.1, .empty⟩
      exact ⟨⟨hlink, ht.2⟩, hsends⟩
  | rename name => exact ⟨ht, .refl⟩
  | useNaming naming => exact ⟨ht, .refl⟩
  | observe => exact ⟨ht, .refl⟩
  | close =>
      obtain ⟨sent, hsent, hclose⟩ :=
        Session.closeAll_recording (b := b) h.link.cache.statements h.link.backend
      let closed := (StatementCache.closeAll b.recording h.link.cache.statements h.link.backend).2
      refine ⟨⟨.empty, ht.2⟩, sent ++ [⟨.close, some (b.answer .close closed.1).1⟩], ?_, ?_⟩
      · rw [← List.append_assoc, ← hsent]
        rfl
      · intro e he p hp
        rcases List.mem_append.mp he with he | he
        · obtain ⟨q, hq⟩ := hclose e he
          rw [hq] at hp
          cases hp
        · rw [List.mem_singleton.mp he] at hp
          cases hp

theorem drop_requests {a : Action} (sent : List Exchange)
    (hsent : (h.act b.recording a).link.backend.2 = h.link.backend.2 ++ sent) :
    (h.act b.recording a).requests.drop h.requests.length = sent.map Exchange.request := by
  simp [requests, hsent]

/-- What runs in a run of a connection was prepared from a text that was asked for in the run and
has the checksum of the text asked for by the action. -/
theorem reports_match (hb : b.Honest) (ht : h.Tidy T) (actions : List Action)
    (hT : ∀ r ∈ h.reports b actions, ∀ t, r.asked = some t → T t) :
    ∀ r ∈ h.reports b actions, ∀ q ∈ r.requests, q.Matches T r.asked := by
  induction actions generalizing h with
  | nil => simp [reports]
  | cons a as ih =>
      obtain ⟨ht', sent, hsent, hok⟩ :=
        act_follows hb ht a (hT _ List.mem_cons_self)
      intro r hr
      rcases List.mem_cons.mp hr with rfl | hr
      · intro q hq
        simp only [drop_requests sent hsent, List.mem_map] at hq
        obtain ⟨e, he, rfl⟩ := hq
        exact hok e he
      · exact ih ht' (fun r hr => hT r (List.mem_cons_of_mem _ hr)) r hr

end Hub

end SqlMapping
