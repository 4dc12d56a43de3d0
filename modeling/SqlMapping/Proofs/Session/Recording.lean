import SqlMapping.Proofs.Session.Cache
import SqlMapping.Session.Operation

/-! # Recorded sessions

A recording backend answers like another one and remembers its requests, so that what work of a
session sends can be spoken of. -/

namespace SqlMapping

variable {σ : Type}

/-- A request with its answer, none when an instant passed before it. -/
structure Exchange where
  request : Request
  reply : Option (Result request.Reply)

/-- The statement that a request runs. -/
def Request.statement? : Request → Option Prepared
  | query _ p _ | exec _ p _ => some p
  | _ => none

/-- A backend that remembers what it was asked. -/
def Backend.recording (b : Backend σ) : Backend (σ × List Exchange) where
  now s :=
    let (t, s') := b.now s.1
    (t, s', s.2)
  answer r s :=
    let (reply, s') := b.answer r s.1
    (reply, s', s.2 ++ [⟨r, some reply⟩])
  answerBy deadline r s :=
    let (reply, s') := b.answerBy deadline r s.1
    (reply, s', s.2 ++ [⟨r, reply⟩])
  observe entry s := (b.observe entry s.1, s.2)

theorem Backend.recording_answerBy (b : Backend σ) (deadline : Nat) (r : Request)
    (s : σ × List Exchange) :
    b.recording.answerBy deadline r s =
      ((b.answerBy deadline r s.1).1, (b.answerBy deadline r s.1).2,
        s.2 ++ [⟨r, (b.answerBy deadline r s.1).1⟩]) :=
  rfl

/-- What a session shares, with the requests to its backend remembered from now on. -/
def Link.recording (l : Link σ) : Link (σ × List Exchange) :=
  { backend := (l.backend, []), cache := l.cache, log := l.log }

/-- What happens between two states sends requests of some kind only. -/
def Sends (ok : Request → Prop) (before after : Link (σ × List Exchange)) : Prop :=
  ∃ sent, after.backend.2 = before.backend.2 ++ sent ∧ ∀ e ∈ sent, ok e.request

namespace Sends

variable {ok : Request → Prop} {l m n : Link (σ × List Exchange)}

theorem refl : Sends ok l l :=
  ⟨[], by simp, by simp⟩

theorem trans (h : Sends ok l m) (h' : Sends ok m n) : Sends ok l n := by
  obtain ⟨sent, hm, hsent⟩ := h
  obtain ⟨sent', hn, hsent'⟩ := h'
  refine ⟨sent ++ sent', by rw [hn, hm, List.append_assoc], ?_⟩
  intro e he
  rcases List.mem_append.mp he with he | he
  · exact hsent e he
  · exact hsent' e he

end Sends

/-- Both caches a session looks into are tidy. -/
def Desk.Tidy (T : String → Prop) (d : Desk σ) : Prop :=
  d.link.cache.Tidy T ∧ d.session.cache.Tidy T

/-- What happens between two states keeps the caches tidy and sends requests of some kind only. -/
def Follows (T : String → Prop) (ok : Request → Prop) (d d' : Desk (σ × List Exchange)) : Prop :=
  d.Tidy T → d'.Tidy T ∧ Sends ok d.link d'.link

namespace Follows

variable {T : String → Prop} {ok : Request → Prop} {d d' d'' : Desk (σ × List Exchange)}

theorem refl : Follows T ok d d :=
  fun h => ⟨h, .refl⟩

theorem trans (h : Follows T ok d d') (h' : Follows T ok d' d'') : Follows T ok d d'' := by
  intro htidy
  obtain ⟨htidy', hsends⟩ := h htidy
  obtain ⟨htidy'', hsends'⟩ := h' htidy'
  exact ⟨htidy'', hsends.trans hsends'⟩

theorem of_eq (sent : List Exchange) (hshared : d'.link.cache = d.link.cache)
    (hown : d'.session.cache = d.session.cache) (hsent : d'.link.backend.2 = d.link.backend.2 ++ sent)
    (hok : ∀ e ∈ sent, ok e.request) : Follows T ok d d' := by
  rintro ⟨htidy, htidy'⟩
  exact ⟨⟨hshared ▸ htidy, hown ▸ htidy'⟩, sent, hsent, hok⟩

/-- Only the caches and the record of requests count. -/
theorem of_unchanged (hshared : d'.link.cache = d.link.cache)
    (hown : d'.session.cache = d.session.cache) (hsent : d'.link.backend.2 = d.link.backend.2) :
    Follows T ok d d' :=
  of_eq [] hshared hown (by simp [hsent]) (by simp)

end Follows

namespace Session

section Work

variable {T : String → Prop} {ok : Request → Prop} {α β : Type} (b : Backend σ)

theorem bind_apply {τ : Type} (w : Work τ α) (f : α → Work τ β) (d : Desk τ) :
    (w >>= f) d =
      match w d with
      | (.ok a, d') => f a d'
      | (.error e, d') => (.error e, d') := by
  simp only [bind, ExceptT.bind, ExceptT.mk, StateT.bind]
  rcases w d with ⟨_ | _, _⟩ <;> rfl

/-- What work keeps and the work after it keeps, both keep. -/
theorem kept_bind {τ : Type} {R : Desk τ → Desk τ → Prop} {w : Work τ α} {f : α → Work τ β}
    {d : Desk τ} (htrans : ∀ {d d' d''}, R d d' → R d' d'' → R d d'') (hw : R d (w d).2)
    (hf : ∀ a, (w d).1 = .ok a → R (w d).2 (f a (w d).2).2) : R d ((w >>= f) d).2 := by
  rw [bind_apply]
  rcases hwd : w d with ⟨_ | a, d'⟩
  · rwa [hwd] at hw
  · rw [hwd] at hw hf
    exact htrans hw (hf a rfl)

theorem sendBy_recording (deadline : Nat) (r : Request) (d : Desk (σ × List Exchange)) :
    sendBy b.recording deadline r d =
      ((b.answerBy deadline r d.link.backend.1).1.getD (Result.fail .deadlineExceeded),
        { d with
          link :=
            { d.link with
              backend :=
                ((b.answerBy deadline r d.link.backend.1).2,
                  d.link.backend.2 ++ [⟨r, (b.answerBy deadline r d.link.backend.1).1⟩]) } }) := by
  simp only [sendBy, onBackend, Backend.recording_answerBy]
  rcases b.answerBy deadline r d.link.backend.1 with ⟨_ | _, _⟩ <;> rfl

theorem sendWithin_some {τ : Type} (b : Backend τ) (deadline : Nat) (r : Request) (d : Desk τ) :
    sendWithin b (some deadline) r d =
      (if deadline ≤ (b.now d.link.backend).1 then yield (Result.fail .deadlineExceeded)
        else sendBy b deadline r) (clock b d).2 :=
  rfl

/-- A request goes to the backend or, once its deadline is reached, nowhere: only the backend
changes, and no other request is recorded. -/
theorem sendWithin_recording (deadline : Option Nat) (r : Request)
    (d : Desk (σ × List Exchange)) :
    ∃ s sent, (sendWithin b.recording deadline r d).2 =
        { d with link := { d.link with backend := (s, d.link.backend.2 ++ sent) } } ∧
      ∀ e ∈ sent, e.request = r := by
  cases deadline with
  | none => exact ⟨_, [⟨r, some (b.answer r d.link.backend.1).1⟩], rfl, by simp⟩
  | some deadline =>
      rw [sendWithin_some]
      split
      · refine ⟨(b.now d.link.backend.1).2, [], ?_, nofun⟩
        rw [List.append_nil]
        rfl
      · rw [sendBy_recording]
        exact ⟨_, [_], rfl, by simp⟩

/-- Work after other work starts where that ended, with its result. -/
theorem follows_bind {w : Work (σ × List Exchange) α} {f : α → Work (σ × List Exchange) β}
    {d : Desk (σ × List Exchange)} (hw : Follows T ok d (w d).2)
    (hf : d.Tidy T → ∀ a, (w d).1 = .ok a → Follows T ok (w d).2 (f a (w d).2).2) :
    Follows T ok d ((w >>= f) d).2 := by
  intro htidy
  exact kept_bind (R := Follows T ok) Follows.trans hw (hf htidy) htidy

theorem follows_current {f : Session → Work (σ × List Exchange) β}
    {d : Desk (σ × List Exchange)} (hf : Follows T ok d (f d.session d).2) :
    Follows T ok d ((current >>= f) d).2 :=
  hf

theorem follows_during {a : Activity} {w : Work (σ × List Exchange) α}
    {d : Desk (σ × List Exchange)} (hw : Follows T ok d (w d).2) :
    Follows T ok d (during a w d).2 :=
  hw

theorem follows_clock (d : Desk (σ × List Exchange)) :
    Follows T ok d (clock b.recording d).2 :=
  .of_unchanged rfl rfl rfl

theorem follows_sendWithin {r : Request} (hr : ok r) (deadline : Option Nat)
    (d : Desk (σ × List Exchange)) :
    Follows T ok d (sendWithin b.recording deadline r d).2 := by
  obtain ⟨s, sent, h, hsent⟩ := sendWithin_recording b deadline r d
  rw [h]
  exact .of_eq sent rfl rfl rfl fun e he => hsent e he ▸ hr

theorem follows_send {r : Request} (hr : ok r) (d : Desk (σ × List Exchange)) :
    Follows T ok d (send b.recording r d).2 :=
  follows_sendWithin b hr none d

theorem follows_record (sql : String) (values : List Value) (d : Desk (σ × List Exchange)) :
    Follows T ok d (record b.recording sql values d).2 := by
  unfold record
  split <;> exact .of_unchanged rfl rfl rfl

end Work

end Session

end SqlMapping
