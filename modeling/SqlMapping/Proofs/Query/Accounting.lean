import SqlMapping.Proofs.Binding
import SqlMapping.Proofs.Query.Ledger

/-! # Accounting for bound values

The values bound for a query, nulls apart, are those that the calls of its ledger supply and those
of its unwritten calls. -/

namespace SqlMapping

open Value (present)
open scoped List

/-- What a ledger says about the values of a query. Lists that hold nulls lose them when the query
is merged into another one, so that nulls are left out of the account. -/
structure Accounted (q : Query) (l : Ledger) : Prop where
  joins : present (Supply.all l.joins.flatten) <+ present (q.binding.clauseValues .join)
  wheres : present (Supply.all l.wheres.flatten) <+ present (q.binding.clauseValues .filter)
  length :
    (present (q.binding.clauseValues .join)).length +
        (present (q.binding.clauseValues .filter)).length =
      (present (Supply.all l.joins.flatten)).length +
        (present (Supply.all l.wheres.flatten)).length +
          (present (Supply.all l.unwritten)).length
  others : ∀ k, k ≠ .join → k ≠ .filter → q.binding.clauseValues k = []

/-- The written calls supply no null, and the unwritten ones nothing else. -/
structure Ledger.Faithful (l : Ledger) : Prop where
  calls : ∀ v ∈ Supply.all l.calls, v.isNull = false
  unwritten : ∀ v ∈ Supply.all l.unwritten, v.isNull = true

theorem Adds.bound {d : Dialect} {p : Predicate} {values supplied : List Value}
    (h : Adds d p values supplied) : values.flatMap Value.bound = supplied := by
  cases h with
  | compare => simp
  | among => simp
  | between logic column negated hfirst hlast =>
      simp only [Query.isBound, Bool.and_eq_true, Bool.not_eq_true'] at hfirst hlast
      simp [Value.bound_of_isBindable, hfirst, hlast, present]
  | null => rfl

namespace Accounted

theorem empty (d : Dialect) : Accounted (.empty d) {} where
  joins := by simp
  wheres := by simp
  length := rfl
  others _ _ _ := rfl

variable {q : Query} {l : Ledger}

/-- Joins and predicates are all that binds values. -/
theorem values_eq (h : Accounted q l) :
    q.values = q.binding.clauseValues .join ++ q.binding.clauseValues .filter := by
  rw [Query.values, Binding.values_eq]
  simp [Bucket.all, h.others]

theorem congr (h : Accounted q l) {q' : Query} (hq : q'.binding = q.binding) :
    Accounted q' l where
  joins := hq ▸ h.joins
  wheres := hq ▸ h.wheres
  length := hq ▸ h.length
  others := hq ▸ h.others

theorem add (h : Accounted q l) {predicate : Predicate} {values bound : List Value}
    (hbound : values.flatMap Value.bound = bound) :
    Accounted ((q.bind values).addWhere predicate) (l.add predicate bound) where
  joins := by simpa [Query.bind, Query.addWhere, Ledger.add] using h.joins
  wheres := by
    simpa [Query.bind, Query.addWhere, Ledger.add, hbound] using
      h.wheres.append (List.Sublist.refl (present bound))
  length := by
    have hlength := h.length
    simp [Query.bind, Query.addWhere, Ledger.add, hbound]
    omega
  others k hjoin hfilter := by
    simpa [Query.bind, Query.addWhere, hfilter] using h.others k hjoin hfilter

/-- The calls of a sub query or of a join that are written supply values that are bound. -/
theorem calls_sublist (h : Accounted q l) : present (Supply.all l.calls) <+ present q.values := by
  rw [h.values_eq]
  simpa [Ledger.calls] using h.joins.append h.wheres

theorem length_values (h : Accounted q l) :
    (present q.values).length =
      (present (Supply.all l.calls)).length + (present (Supply.all l.unwritten)).length := by
  have hlength := h.length
  rw [h.values_eq]
  simp [Ledger.calls]
  omega

/-- A query hands on exactly the values of its written calls if its ledger is faithful, and only
then. -/
theorem present_values_eq_iff (h : Accounted q l) :
    present q.values = Supply.all l.calls ↔ l.Faithful := by
  constructor
  · intro heq
    have hcalls : ∀ v ∈ Supply.all l.calls, v.isNull = false :=
      fun v hv => Value.isNull_of_mem_present (heq ▸ hv)
    -- The lengths leave no room for a value of an unwritten call.
    refine ⟨hcalls, Value.present_eq_nil.mp ?_⟩
    have hlength := h.length_values
    rw [Value.present_eq_self.mpr hcalls, heq] at hlength
    exact List.eq_nil_of_length_eq_zero (by omega)
  · rintro ⟨hcalls, hunwritten⟩
    have hsublist := h.calls_sublist
    have hlength := h.length_values
    rw [Value.present_eq_self.mpr hcalls] at hsublist hlength
    rw [Value.present_eq_nil.mpr hunwritten] at hlength
    exact (hsublist.eq_of_length (by simpa using hlength.symm)).symm

/-- Seen as a join, a query does not write its own joins. -/
theorem ofJoin (h : Accounted q l) : Accounted q l.ofJoin where
  joins := by simp [Ledger.ofJoin]
  wheres := h.wheres
  length := by
    have hlength := h.length
    simp [Ledger.ofJoin]
    omega
  others := h.others

theorem addSub (h : Accounted q l) {sub : Query} {m : Ledger} (hsub : Accounted sub m) :
    Accounted { q with binding := q.binding.merge .filter sub.binding } (l.addSub m) where
  joins := by simpa [Ledger.addSub] using h.joins
  wheres := by
    have hcalls := hsub.calls_sublist
    simpa [Ledger.addSub, Query.values] using h.wheres.append hcalls
  length := by
    have hlength := h.length
    have hvalues := hsub.length_values
    simp only [Query.values] at hvalues
    simp [Ledger.addSub]
    omega
  others k hjoin hfilter := by simpa [hfilter] using h.others k hjoin hfilter

theorem addJoin (h : Accounted q l) {j : Join} {m : Ledger} (hjoin : Accounted j.query m)
    (hc : j.conditions.isEmpty = false) : Accounted (q.addJoin j) (l.addJoin m) := by
  obtain ⟨hbinding, -, -⟩ := Query.addJoin_of_not_isEmpty (q := q) hc
  refine congr (q := { q with binding := q.binding.merge .join j.query.binding }) ?_ hbinding
  exact {
    joins := by
      have hcalls := hjoin.ofJoin.calls_sublist
      simpa [Ledger.addJoin, Query.values] using h.joins.append hcalls
    wheres := by simpa [Ledger.addJoin] using h.wheres
    length := by
      have hlength := h.length
      have hvalues := hjoin.ofJoin.length_values
      simp only [Query.values] at hvalues
      simp [Ledger.addJoin]
      omega
    others := fun k hjoin hfilter => by simpa [hjoin] using h.others k hjoin hfilter }

/-- Every call is accounted for. -/
theorem keeps (d : Dialect) : Keeps d Accounted Accounted fun j m => Accounted j.query m where
  empty := empty d
  congr h hbinding _ _ := h.congr hbinding
  add h hadds := h.add hadds.bound
  addSub logic column operator h hsub hf := by
    simp only [Query.compareSub, hf]
    exact (h.addSub hsub).congr rfl
  addJoin h hjoin hc := h.addJoin hjoin hc

theorem run (d : Dialect) (steps : List Step) :
    Accounted (Query.run (.empty d) steps) (Ledger.run d {} steps) :=
  (keeps d).run (empty d) rfl steps

theorem runJoin (d : Dialect) (kind : JoinKind) (table : String) (steps : List JoinStep) :
    Accounted (Join.run (Join.start d kind table) steps).query (Ledger.runJoin d {} steps) :=
  (keeps d).runJoin (empty d) rfl steps

end Accounted

end SqlMapping
