import SqlMapping.Proofs.Session.Recording

/-! # Statements that run

The statement that runs for an operation of a session was prepared from a text with the checksum
of the text that the operation asks for. -/

namespace SqlMapping

open Session

variable {σ : Type}

/-! ## The text asked for -/

/-- The text of a planned statement. -/
def Plan.asked (plan : Result Plan) (statement : Plan → Result (Sql × List Value)) :
    Option String := do
  let p ← plan.toOption
  let (sql, _) ← (statement p).toOption
  return sql.render p.query.dialect

namespace Session

def compiled? (s : Session) (r : Result (Sql × List Value)) : Option String :=
  r.toOption.map fun (sql, _) => s.text sql

/-- The text of the statement that an operation asks for, if it asks for one and can be
compiled. -/
def asked (s : Session) : Operation → Option String
  | .find id o columns =>
    Plan.asked (s.planFor none columns o).1 fun p =>
      .ok (Sql.find p.query.distinct p.columns p.mapping.table p.mapping.qualifiedKey, [id])
  | .first o columns =>
    Plan.asked (s.planFor (some s.query.aliases) columns o).1 fun p => firstOf p.query
  | .all fresh columns => do
    let p ← (s.planFor (some s.query.aliases) columns fresh).1.toOption
    let sql ← p.query.selectSql.toOption
    return s.text sql
  | .findRecord _ primaryKey columns =>
    if s.query.failure.isSome || s.query.table.isEmpty || primaryKey.isEmpty then none
    else some (s.text (Sql.find s.query.distinct columns s.query.table primaryKey))
  | .firstRecord => s.compiled? (firstOf s.query)
  | .allRecords => s.query.selectSql.toOption.map s.text
  | .insert p => s.compiled? (s.query.insertSql s.naming p)
  | .update p => s.compiled? (s.query.updateSql s.naming p)
  | .delete => s.compiled? (s.query.deleteSql.map fun sql => (sql, s.query.binding.deleteValues))
  | .exec sql _ => some sql
  | _ => none

end Session

/-- A request that runs a statement runs one for a text in `T`, which has the checksum of the text
asked for. -/
def Request.Matches (T : String → Prop) (asked : Option String) (r : Request) : Prop :=
  ∀ p, r.statement? = some p →
    T p.sql ∧ ∃ t, asked = some t ∧ Text.checksum p.sql = Text.checksum t

/-- A backend prepares the statements it is asked to prepare. -/
def Backend.Honest (b : Backend σ) : Prop :=
  ∀ sql s (p : Prepared), (b.answer (.prepare sql) s).1 = .ok p → p.sql = sql

namespace Session

variable {T : String → Prop} {asked : Option String} {b : Backend σ}
  {d : Desk (σ × List Exchange)} {sql : String}

/-! ## Preparing -/

theorem prepare_of_cached {d : Desk σ} {p : Prepared} (h : cached? d sql = some p) :
    prepare b sql d = (.ok p, d) := by
  simp only [prepare, bind_apply, h]
  rfl

theorem prepare_of_not_cached {d : Desk σ} (h : cached? d sql = none) :
    prepare b sql d =
      match send b (.prepare sql) d with
      | (.ok p, d') => (.ok p, keep sql p d')
      | (.error e, d') => (.error e, d') := by
  simp only [prepare, bind_apply, h]
  refine (bind_apply (send b (.prepare sql)) _ d).trans ?_
  generalize send b (.prepare sql) d = sent
  rcases sent with ⟨_ | _, _⟩ <;> rfl

theorem cached?_tidy (h : d.Tidy T) {p : Prepared} (hp : cached? d sql = some p) :
    Text.checksum p.sql = Text.checksum sql ∧ T p.sql := by
  unfold cached? at hp
  split at hp
  · rename_i q hshared
    obtain rfl : q = p := by simpa using hp
    split at hshared
    · exact h.1.get? hshared
    · cases hshared
  · exact h.2.get? hp

theorem keep_tidy (h : d.Tidy T) {p : Prepared} (hp : p.sql = sql) (hsql : T sql) :
    (keep sql p d).Tidy T := by
  unfold keep
  split
  · exact ⟨h.1.insert hp hsql, h.2⟩
  · exact ⟨h.1, h.2.insert hp hsql⟩

theorem keep_backend (sql : String) (p : Prepared) (d : Desk σ) :
    (keep sql p d).link.backend = d.link.backend := by
  unfold keep
  split <;> rfl

/-- A statement prepared for a text is one for a text with the same checksum. -/
theorem prepare_ok (hb : b.Honest) (hsql : T sql) (htidy : d.Tidy T) {p : Prepared}
    (h : (prepare b.recording sql d).1 = .ok p) :
    Text.checksum p.sql = Text.checksum sql ∧ T p.sql := by
  cases hfound : cached? d sql with
  | some q =>
      rw [prepare_of_cached hfound] at h
      cases h
      exact cached?_tidy htidy hfound
  | none =>
      rw [prepare_of_not_cached hfound] at h
      rcases hsent : send b.recording (.prepare sql) d with ⟨_ | q, d'⟩
      · simp [hsent] at h
      · rw [hsent] at h
        cases h
        obtain rfl := hb sql d.link.backend.1 p (congrArg Prod.fst hsent)
        exact ⟨rfl, hsql⟩

theorem follows_prepare (hb : b.Honest) (hsql : T sql) :
    Follows T (Request.Matches T asked) d (prepare b.recording sql d).2 := by
  cases hfound : cached? d sql with
  | some q =>
      rw [prepare_of_cached hfound]
      exact .refl
  | none =>
      have hsend : Follows T (Request.Matches T asked) d (send b.recording (.prepare sql) d).2 :=
        follows_send b nofun d
      rw [prepare_of_not_cached hfound]
      rcases hsent : send b.recording (.prepare sql) d with ⟨_ | q, d'⟩
      · rwa [hsent] at hsend
      · rw [hsent] at hsend
        refine hsend.trans fun htidy => ⟨keep_tidy htidy ?_ hsql, [], ?_, by simp⟩
        · exact hb sql d.link.backend.1 q (congrArg Prod.fst hsent)
        · rw [List.append_nil]
          exact congrArg Prod.snd (keep_backend sql q d')

theorem follows_route : Follows T (Request.Matches T asked) d (route d).2 := by
  unfold route
  split <;> exact .refl

/-- Work with the statement for a text that is asked for. -/
theorem follows_prepared {α : Type} {f : Prepared → Work (σ × List Exchange) α} (hb : b.Honest)
    (hsql : T sql)
    (hf : ∀ p d', (∀ r : Request, r.statement? = some p → r.Matches T (some sql)) →
      Follows T (Request.Matches T (some sql)) d' (f p d').2) :
    Follows T (Request.Matches T (some sql)) d ((prepare b.recording sql >>= f) d).2 := by
  refine follows_bind (follows_prepare hb hsql) ?_
  intro htidy p hp
  obtain ⟨hchecksum, hT⟩ := prepare_ok hb hsql htidy hp
  refine hf p _ fun r hr q hq => ?_
  obtain rfl : p = q := by simpa [hr] using hq
  exact ⟨hT, sql, rfl, hchecksum⟩

theorem follows_runQuery (hb : b.Honest) (hsql : T sql) (values : List Value) :
    Follows T (Request.Matches T (some sql)) d (runQuery b.recording sql values d).2 := by
  refine follows_bind (follows_record b sql values d) ?_
  intro _ _ _
  refine follows_during (follows_prepared hb hsql fun p d' hp => ?_)
  exact follows_bind follows_route fun _ _ _ => follows_sendWithin b (hp _ rfl) _ _

theorem follows_execute (hb : b.Honest) (hsql : T sql) (values : List Value) :
    Follows T (Request.Matches T (some sql)) d (execute b.recording sql values d).2 := by
  refine follows_bind (follows_record b sql values d) ?_
  intro _ _ _
  refine follows_during (follows_prepared hb hsql fun p d' hp => ?_)
  exact follows_bind follows_route fun _ _ _ => follows_sendWithin b (hp _ rfl) _ _

/-- A cached statement runs for every text that finds it. -/
theorem execute_of_cached {p : Prepared} (values : List Value) (hp : cached? d sql = some p)
    (hactive : d.session.active = none) :
    ∃ reply, (execute b.recording sql values d).2.link.backend.2 =
      d.link.backend.2 ++ [⟨.exec none p values, reply⟩] := by
  obtain ⟨d', hrecord, hp', hactive', hsent⟩ :
      ∃ d', record b.recording sql values d = (.ok (), d') ∧ cached? d' sql = some p ∧
        d'.session.active = none ∧ d'.link.backend.2 = d.link.backend.2 := by
    unfold record
    split <;> exact ⟨_, rfl, hp, hactive, rfl⟩
  have hroute : route d' = (.ok (none, none), d') := by simp [route, hactive']
  refine ⟨some (b.answer (.exec none p values) d'.link.backend.1).1, ?_⟩
  rw [execute, bind_apply, hrecord]
  simp only [during]
  rw [bind_apply, prepare_of_cached hp', ← hsent]
  have hexec := bind_apply route (fun x => sendWithin b.recording x.2 (.exec x.1 p values)) d'
  rw [hroute] at hexec
  exact congrArg (·.2.link.backend.2) hexec

end Session

end SqlMapping
