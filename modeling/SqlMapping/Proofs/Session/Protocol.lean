import SqlMapping.Proofs.Session.Recording

/-! # The protocol of transactions

A session has one transaction open at a time. It asks that one only, and asks nothing of a
transaction that it ended. -/

namespace SqlMapping

namespace Request

/-- The transaction that a request runs a statement through, if it runs one. -/
def via? : Request → Option (Option Transaction)
  | query via _ _ | exec via _ _ => some via
  | _ => none

/-- The transaction that a request commits or rolls back. -/
def ends? : Request → Option Transaction
  | commit t | rollback t => some t
  | _ => none

/-- The transaction that is asked something. -/
def target? (r : Request) : Option Transaction :=
  match r.via? with
  | some via => via
  | none => r.ends?

theorem eq_of_ends? {r : Request} {t : Transaction} (h : r.ends? = some t) :
    r = .commit t ∨ r = .rollback t := by
  cases r with
  | commit => exact .inl (congrArg _ (Option.some.inj h))
  | rollback => exact .inr (congrArg _ (Option.some.inj h))
  | _ => cases h

theorem target?_of_ends? {r : Request} {t : Transaction} (h : r.ends? = some t) :
    r.target? = some t := by
  rcases eq_of_ends? h with rfl | rfl <;> rfl

end Request

/-- The transaction that an answer began. -/
def Exchange.begins? : Exchange → Option Transaction
  | ⟨.begin, some (.ok t)⟩ => some t
  | _ => none

theorem Exchange.request_of_begins? {e : Exchange} {t : Transaction} (h : e.begins? = some t) :
    e.request = .begin := by
  unfold begins? at h
  split at h
  · rfl
  · cases h

/-- A transaction is asked nothing, unless it is begun again. -/
def Unused (t : Transaction) : List Exchange → Prop
  | [] => True
  | e :: es => e.begins? = some t ∨ e.request.target? ≠ some t ∧ Unused t es

/-- A transaction is committed or rolled back once at most, and asked nothing afterwards. -/
def Final : List Exchange → Prop
  | [] => True
  | e :: es => (∀ t, e.request.ends? = some t → Unused t es) ∧ Final es

/-- What may be sent while one transaction is open at the most. -/
inductive Protocol : Option Transaction → List Exchange → Option Transaction → Prop
  | done {a : Option Transaction} : Protocol a [] a
  | asked {a a' : Option Transaction} {e : Exchange} {es : List Exchange}
      (target : ∀ t, e.request.target? = some t → a = some t) (ends : e.request.ends? = none)
      (next : Protocol a es a') : Protocol a (e :: es) a'
  | begun {t : Transaction} {a' : Option Transaction} {e : Exchange} {es : List Exchange}
      (begins : e.begins? = some t) (next : Protocol (some t) es a') : Protocol none (e :: es) a'
  | ended {t : Transaction} {a' : Option Transaction} {e : Exchange} {es : List Exchange}
      (ends : e.request.ends? = some t) (next : Protocol none es a') :
      Protocol (some t) (e :: es) a'
  /-- A transaction may be given up without a word. -/
  | dropped {t : Transaction} {a' : Option Transaction} {es : List Exchange}
      (next : Protocol none es a') : Protocol (some t) es a'

namespace Protocol

variable {a a' a'' : Option Transaction} {es es' : List Exchange}

theorem append (h : Protocol a es a') (h' : Protocol a' es' a'') : Protocol a (es ++ es') a'' := by
  induction h with
  | done => exact h'
  | asked target ends _ ih => exact .asked target ends (ih h')
  | begun begins _ ih => exact .begun begins (ih h')
  | ended ends _ ih => exact .ended ends (ih h')
  | dropped _ ih => exact .dropped (ih h')

/-- Requests that ask the open transaction, or none. -/
theorem of_asked (h : ∀ e ∈ es, (∀ t, e.request.target? = some t → a = some t) ∧
    e.request.ends? = none) : Protocol a es a := by
  induction es with
  | nil => exact .done
  | cons e es ih =>
      obtain ⟨⟨target, ends⟩, hes⟩ := List.forall_mem_cons.mp h
      exact .asked target ends (ih hes)

/-- Only the open transaction is asked before another one is begun. -/
theorem unused (h : Protocol a es a') {t : Transaction} (ht : a ≠ some t) : Unused t es := by
  induction h with
  | done => exact trivial
  | asked target _ _ ih => exact .inr ⟨fun htarget => ht (target t htarget), ih ht⟩
  | @begun t' _ e _ begins _ ih =>
      by_cases heq : t' = t
      · exact .inl (heq ▸ begins)
      · refine .inr ⟨?_, ih fun h => heq (Option.some.inj h)⟩
        rw [e.request_of_begins? begins]
        exact nofun
  | ended ends _ ih =>
      refine .inr ⟨?_, ih nofun⟩
      rwa [Request.target?_of_ends? ends]
  | dropped _ ih => exact ih nofun

theorem final (h : Protocol a es a') : Final es := by
  induction h with
  | done => exact trivial
  | asked _ ends _ ih => exact ⟨by simp [ends], ih⟩
  | @begun _ _ e _ begins _ ih =>
      refine ⟨?_, ih⟩
      rw [e.request_of_begins? begins]
      exact nofun
  | ended ends next ih =>
      refine ⟨?_, ih⟩
      intro t _
      exact next.unused nofun
  | dropped _ ih => exact ih

end Protocol

end SqlMapping
