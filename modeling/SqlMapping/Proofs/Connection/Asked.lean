import SqlMapping.Proofs.Connection.Run
import SqlMapping.Session.Scripted

/-! # The statement asked for

A connection runs the statements it is asked for as long as no two of their texts have the same
checksum, and no longer. -/

namespace SqlMapping

/-- Each statement that is run was prepared from the text asked for, up to the blanks around it. -/
def Report.IsRight (r : Report) : Prop :=
  ∀ q ∈ r.requests, ∀ p, q.statement? = some p →
    ∃ t, r.asked = some t ∧ Text.trimmed p.sql = Text.trimmed t

/-- Texts that differ in more than the blanks around them have different checksums. -/
def Distinguishes (T : String → Prop) : Prop :=
  ∀ t t', T t → T t' → Text.checksum t = Text.checksum t' → Text.trimmed t = Text.trimmed t'

theorem Script.honest : Script.backend.Honest := by
  intro sql s p hp
  simp only [backend, answerNow, guarded] at hp
  split at hp
  · cases hp
  · cases hp
    rfl

namespace Hub

def scripted (c : Connection) : Hub (Script × List Exchange) :=
  start c ({}, [])

def twice (t t' : String) : List Action :=
  [.openSession, .perform 0 (.exec t []), .perform 0 (.exec t' [])]

theorem asked_twice (c : Connection) (t t' : String) :
    ((scripted c).reports Script.backend (twice t t')).map Report.asked = [none, some t, some t'] :=
  rfl

/-- The statement of the first text runs for every other text with its checksum. -/
theorem requests_twice (c : Connection) {t t' : String}
    (h : Text.checksum t = Text.checksum t') :
    ∃ r ∈ (scripted c).reports Script.backend (twice t t'),
      r.asked = some t' ∧ r.requests = [.exec none ⟨0, t⟩ []] := by
  let d := (Session.execute Script.backend.recording t [] ⟨c.session, ⟨({}, []), [], []⟩⟩).2
  -- The first statement is in the cache that the session looks into, its own or the shared one.
  obtain ⟨hcached, hactive⟩ :
      Session.cached? d t' = some ⟨0, t⟩ ∧ d.session.active = none := by
    obtain ⟨name, ⟨style, log, shared⟩, dialect, naming, sink⟩ := c
    refine ⟨?_, by cases shared <;> rcases sink with _ | _ | _ <;> rfl⟩
    cases shared with
    | false =>
        have hown : d.session.cache = [(Text.checksum t, ⟨0, t⟩)] := by
          rcases sink with _ | _ | _ <;> rfl
        have hshares : d.session.sharesCache = false := by rcases sink with _ | _ | _ <;> rfl
        simp [Session.cached?, hshares, hown, StatementCache.get?, StatementCache.find?, h]
    | true =>
        have hshared : d.link.cache = [(Text.checksum t, ⟨0, t⟩)] := by
          rcases sink with _ | _ | _ <;> rfl
        have hshares : d.session.sharesCache = true := by rcases sink with _ | _ | _ <;> rfl
        simp [Session.cached?, hshares, hshared, StatementCache.get?, StatementCache.find?, h]
  obtain ⟨reply, hsent⟩ := Session.execute_of_cached (b := Script.backend) [] hcached hactive
  refine ⟨_, .tail _ (.tail _ (.head _)), rfl, ?_⟩
  exact drop_requests [⟨.exec none ⟨0, t⟩ [], reply⟩] hsent

end Hub

/-- Every run of a connection that asks for certain texts runs the statements it is asked for if
their checksums tell these texts apart, and only then. -/
theorem asked_statements_run_iff (c : Connection) (T : String → Prop) :
    (∀ (σ : Type) (b : Backend σ) (s : σ) (actions : List Action), b.Honest →
      let reports := (Hub.start c (s, [])).reports b actions
      (∀ r ∈ reports, ∀ t, r.asked = some t → T t) → ∀ r ∈ reports, r.IsRight) ↔
    Distinguishes T := by
  constructor
  · intro hright t t' ht ht' hchecksum
    have hT : ∀ r ∈ (Hub.scripted c).reports Script.backend (Hub.twice t t'),
        ∀ u, r.asked = some u → T u := by
      intro r hr u hu
      have hmem := List.mem_map_of_mem (f := Report.asked) hr
      rw [Hub.asked_twice, hu] at hmem
      rcases (by simpa using hmem : u = t ∨ u = t') with rfl | rfl
      · exact ht
      · exact ht'
    obtain ⟨r, hr, hasked, hrequests⟩ := Hub.requests_twice c hchecksum
    obtain ⟨u, hu, htrimmed⟩ :=
      hright Script Script.backend {} _ Script.honest hT r hr (.exec none ⟨0, t⟩ [])
        (by simp [hrequests]) ⟨0, t⟩ rfl
    rw [hasked] at hu
    cases hu
    exact htrimmed
  · intro hdistinguishes σ b s actions hb reports hT r hr q hq p hp
    have htidy : (Hub.start c (s, ([] : List Exchange))).Tidy T := ⟨.empty, by simp [Hub.start]⟩
    obtain ⟨hp, t, ht, hchecksum⟩ := Hub.reports_match hb htidy actions hT r hr q hq p hp
    exact ⟨t, ht, hdistinguishes p.sql t hp (hT r hr t ht) hchecksum⟩

theorem checksum_collision :
    Text.checksum "truncate table feature_shape" = Text.checksum "select * from new_report" := by
  decide +kernel

/-- A connection that is asked for these does not always run the second one. -/
theorem not_right_of_collision :
    ¬ ∀ (σ : Type) (b : Backend σ) (s : σ) (actions : List Action), b.Honest →
        let c : Connection := { settings := {}, dialect := .mysql, naming := .snake, sink := none }
        let reports := (Hub.start c (s, [])).reports b actions
        (∀ r ∈ reports, ∀ t, r.asked = some t →
          t = "truncate table feature_shape" ∨ t = "select * from new_report") →
        ∀ r ∈ reports, r.IsRight := by
  intro hright
  have hdistinguishes := (asked_statements_run_iff _ _).mp hright
  have htrimmed := hdistinguishes _ _ (.inl rfl) (.inr rfl) checksum_collision
  exact absurd htrimmed (by decide +kernel)

end SqlMapping
