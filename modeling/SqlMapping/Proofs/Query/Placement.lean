import SqlMapping.Proofs.Query.Accounting
import SqlMapping.Proofs.Query.Alignment

/-! # Placement of values

The placeholders of a compiled statement take the values bound for its query one by one, each in
the predicate whose call supplied the value. Values given to the query itself may be anything;
lists given inside a closure have to be free of nulls, and a join may not join further tables. -/

namespace SqlMapping

/-! ## Values and their placeholders -/

theorem Supply.exists_of_getElem? {calls : List Supply} {k : Nat} {v : Value}
    (h : (Supply.all calls)[k]? = some v) :
    ∃ before c after j, calls = before ++ c :: after ∧
      k = (Supply.all before).length + j ∧ c.values[j]? = some v := by
  induction calls generalizing k with
  | nil => simp at h
  | cons c calls ih =>
      have hcons : Supply.all (c :: calls) = c.values ++ Supply.all calls := rfl
      rw [hcons] at h
      by_cases hk : k < c.values.length
      · rw [List.getElem?_append_left hk] at h
        exact ⟨[], c, calls, k, rfl, by simp, h⟩
      · rw [List.getElem?_append_right (Nat.le_of_not_lt hk)] at h
        obtain ⟨before, c', after, j, rfl, hj, hv⟩ := ih h
        refine ⟨c :: before, c', after, j, rfl, ?_, hv⟩
        change k = (c.values ++ Supply.all before).length + j
        rw [List.length_append]
        omega

/-- The placeholders of a text take the values that some calls supply: there are as many, and the
placeholder of each value stands in the predicate of the call that supplied it. -/
structure Takes (sql : Sql) (calls : List Supply) (values : List Value) : Prop where
  slots : sql.slots = values.length
  supplied : values = Supply.all calls
  placed : ∀ k v, values[k]? = some v →
    ∃ before c after s body t j, calls = before ++ c :: after ∧ sql = s ++ body ++ t ∧
      c.predicate.body = .ok body ∧ Sql.slots s = (Supply.all before).length ∧
        k = Sql.slots s + j ∧ j < Sql.slots body ∧ c.values[j]? = some v

theorem Aligned.takes {sql : Sql} {calls : List Supply} (h : Aligned sql calls) :
    Takes sql calls (Supply.all calls) where
  slots := h.slots
  supplied := rfl
  placed k v hv := by
    obtain ⟨before, c, after, j, hcalls, hk, hj⟩ := Supply.exists_of_getElem? hv
    obtain ⟨s, body, t, hbody, hsql, hbefore, hvalues⟩ := h.stands before c after hcalls
    obtain ⟨hlt, -⟩ := List.getElem?_eq_some_iff.mp hj
    refine ⟨before, c, after, s, body, t, j, hcalls, hsql, hbody, hbefore, ?_, ?_, hj⟩
    · rw [hk, hbefore]
    · rwa [hvalues]

theorem Aligned.takes_iff {sql : Sql} {calls : List Supply} {values : List Value}
    (h : Aligned sql calls) : Takes sql calls values ↔ values = Supply.all calls := by
  constructor
  · exact Takes.supplied
  · rintro rfl
    exact h.takes

/-! ## Closures that keep their values -/

/-- Whether a value is no list that holds a null. -/
def Value.isSolid : Value → Bool
  | list items => items.all (!·.isNull)
  | _ => true

mutual
/-- Whether the lists given to a call, and to the calls of its closures, are free of nulls and its
joins join no further tables. -/
def Step.isSolid : Step → Bool
  | .compare _ _ _ value => value.isSolid
  | .among _ _ values _ => (Value.list values).isSolid
  | .sub _ _ _ steps => Step.allSolid steps
  | .join _ _ steps => JoinStep.allSolid steps
  | _ => true
def Step.allSolid : List Step → Bool
  | [] => true
  | s :: ss => s.isSolid && Step.allSolid ss
def JoinStep.isSolid : JoinStep → Bool
  | .on .. => true
  | .query (.join ..) => false
  | .query s => s.isSolid
def JoinStep.allSolid : List JoinStep → Bool
  | [] => true
  | s :: ss => s.isSolid && JoinStep.allSolid ss
end

/-- Whether the closure given to a call makes solid calls only; a call without a closure may be
given anything. -/
def Step.hasSolidClosure : Step → Bool
  | .sub _ _ _ steps => Step.allSolid steps
  | .join _ _ steps => JoinStep.allSolid steps
  | _ => true

/-- No call of a ledger supplies a null, and all are written. -/
structure Ledger.Solid (l : Ledger) : Prop where
  joins : ∀ v ∈ Supply.all l.joins.flatten, v.isNull = false
  wheres : ∀ v ∈ Supply.all l.wheres.flatten, v.isNull = false
  unwritten : l.unwritten = []

namespace Ledger.Solid

variable {l m : Ledger} {d : Dialect}

theorem empty : Ledger.Solid {} where
  joins := by simp
  wheres := by simp
  unwritten := rfl

theorem faithful (h : l.Solid) : l.Faithful where
  calls v hv := by
    simp only [Ledger.calls, List.flatten_append, Supply.all_append, List.mem_append] at hv
    exact hv.elim (h.joins v) (h.wheres v)
  unwritten v hv := by simp [h.unwritten] at hv

theorem add (h : l.Solid) {p : Predicate} {values : List Value}
    (hvalues : ∀ v ∈ values, v.isNull = false) : (l.add p values).Solid where
  joins := h.joins
  wheres v hv := by
    simp only [Ledger.add, List.flatten_append, Supply.all_append, List.mem_append] at hv
    exact hv.elim (h.wheres v) fun hv => hvalues v (by simpa using hv)
  unwritten := h.unwritten

theorem addSub (h : l.Solid) (hm : m.Solid) : (l.addSub m).Solid where
  joins := h.joins
  wheres v hv := by
    simp only [Ledger.addSub, List.flatten_append, Supply.all_append, List.mem_append] at hv
    exact hv.elim (h.wheres v) fun hv => hm.faithful.calls v (by simpa using hv)
  unwritten := by simp [Ledger.addSub, h.unwritten, hm.unwritten]

/-- A join whose query joins nothing writes all its calls. -/
theorem ofJoin (h : l.Solid) (hjoins : l.joins = []) : l.ofJoin.Solid where
  joins := by simp [Ledger.ofJoin]
  wheres := h.wheres
  unwritten := by simp [Ledger.ofJoin, h.unwritten, hjoins]

theorem addJoin (h : l.Solid) (hm : m.ofJoin.Solid) : (l.addJoin m).Solid where
  joins v hv := by
    simp only [Ledger.addJoin, List.flatten_append, Supply.all_append, List.mem_append] at hv
    exact hv.elim (h.joins v) fun hv => hm.faithful.calls v (by simpa using hv)
  wheres := h.wheres
  unwritten := by simp [Ledger.addJoin, h.unwritten, hm.unwritten]

end Ledger.Solid

theorem Value.isNull_of_mem_bound {v w : Value} (hv : v.isSolid = true) (h : w ∈ v.bound) :
    w.isNull = false := by
  rcases (of_mem_bound h).2 with ⟨items, rfl, hw⟩ | ⟨rfl, hnull⟩
  · have hall : ∀ u ∈ items, u.isNull = false := by simpa [isSolid] using hv
    exact hall w hw
  · exact hnull

/-- A solid call on the query of a join is no join. -/
theorem JoinStep.isSolid_query {s : Step} (h : (JoinStep.query s).isSolid = true) :
    s.isSolid = true ∧
      ∀ (d : Dialect) (l : Ledger), l.joins = [] → (l.apply d s).joins = [] := by
  cases s with
  | join kind table steps => cases h
  | compare logic column operator value =>
      refine ⟨h, fun d l hl => ?_⟩
      simp only [Ledger.apply]
      split <;> exact hl
  | between logic column first last negated =>
      refine ⟨h, fun d l hl => ?_⟩
      simp only [Ledger.apply]
      split <;> exact hl
  | sub logic column operator steps =>
      refine ⟨h, fun d l hl => ?_⟩
      simp only [Ledger.apply]
      split <;> exact hl
  | reset => exact ⟨h, fun _ _ _ => rfl⟩
  | _ => exact ⟨h, fun _ _ hl => hl⟩

namespace Ledger.Solid

mutual
theorem apply {l : Ledger} {d : Dialect} (h : l.Solid) :
    ∀ s : Step, s.isSolid = true → (l.apply d s).Solid
  | .table _, _ | .aliased _, _ | .distinct, _ | .select _, _ | .order .., _ | .skip _, _
  | .take _, _ => h
  | .reset, _ => empty
  | .compare logic column operator value, hs => by
      simp only [Ledger.apply]
      split
      · exact h.add fun v => Value.isNull_of_mem_bound hs
      · exact h
  | .among logic column values negated, hs => h.add fun v => Value.isNull_of_mem_bound hs
  | .between logic column first last negated, _ => by
      simp only [Ledger.apply]
      split
      · rename_i hbound
        simp only [Bool.and_eq_true, Query.isBound, Bool.not_eq_true'] at hbound
        obtain ⟨⟨-, hfirst⟩, -, hlast⟩ := hbound
        exact h.add (by simp [hfirst, hlast])
      · exact h
  | .null .., _ => h.add (by simp)
  | .sub logic column operator steps, hs => by
      simp only [Ledger.apply]
      split
      · exact h
      · exact h.addSub (run empty steps hs)
  | .join kind table steps, hs => by
      simp only [Ledger.apply]
      obtain ⟨hm, hjoins⟩ := runJoin empty rfl steps hs
      split
      · exact h.addJoin (hm.ofJoin hjoins)
      · exact h
theorem run {l : Ledger} {d : Dialect} (h : l.Solid) :
    ∀ steps : List Step, Step.allSolid steps = true → (l.run d steps).Solid
  | [], _ => h
  | s :: ss, hs => by
      obtain ⟨hs, hss⟩ := Bool.and_eq_true_iff.mp hs
      exact run (apply h s hs) ss hss
theorem applyJoin {l : Ledger} {d : Dialect} (h : l.Solid) (hjoins : l.joins = []) :
    ∀ s : JoinStep, s.isSolid = true → (l.applyJoin d s).Solid ∧ (l.applyJoin d s).joins = []
  | .on .., _ => ⟨h, hjoins⟩
  | .query s, hs =>
      have hquery := JoinStep.isSolid_query hs
      ⟨apply h s hquery.1, hquery.2 d l hjoins⟩
theorem runJoin {l : Ledger} {d : Dialect} (h : l.Solid) (hjoins : l.joins = []) :
    ∀ steps : List JoinStep, JoinStep.allSolid steps = true →
      (l.runJoin d steps).Solid ∧ (l.runJoin d steps).joins = []
  | [], _ => ⟨h, hjoins⟩
  | s :: ss, hs => by
      obtain ⟨hs, hss⟩ := Bool.and_eq_true_iff.mp hs
      obtain ⟨h', hjoins'⟩ := applyJoin (d := d) h hjoins s hs
      exact runJoin h' hjoins' ss hss
end

end Ledger.Solid

/-! ## Queries whose closures are solid -/

/-- The values of a query are those its calls supply, clause by clause. -/
structure Exact (q : Query) (l : Ledger) : Prop where
  joins : q.binding.clauseValues .join = Supply.all l.joins.flatten
  wheres : q.binding.clauseValues .filter = Supply.all l.wheres.flatten
  others : ∀ k, k ≠ .join → k ≠ .filter → q.binding.clauseValues k = []

namespace Exact

variable {q : Query} {l : Ledger}

theorem empty (d : Dialect) : Exact (.empty d) {} where
  joins := rfl
  wheres := rfl
  others _ _ _ := rfl

theorem congr (h : Exact q l) {q' : Query} (hq : q'.binding = q.binding) : Exact q' l where
  joins := hq ▸ h.joins
  wheres := hq ▸ h.wheres
  others := hq ▸ h.others

theorem values_eq (h : Exact q l) : q.values = Supply.all l.calls := by
  rw [Query.values, Binding.values_eq]
  simp [Bucket.all, h.others, h.joins, h.wheres, Ledger.calls]

theorem add (h : Exact q l) {p : Predicate} {values bound : List Value}
    (hbound : values.flatMap Value.bound = bound) :
    Exact ((q.bind values).addWhere p) (l.add p bound) where
  joins := by simpa [Query.bind, Query.addWhere, Ledger.add] using h.joins
  wheres := by simp [Query.bind, Query.addWhere, Ledger.add, hbound, h.wheres]
  others k hjoin hfilter := by
    simpa [Query.bind, Query.addWhere, hfilter] using h.others k hjoin hfilter

theorem addSub (h : Exact q l) {sub : Query} {m : Ledger} (hsub : Accounted sub m)
    (hm : m.Solid) :
    Exact { q with binding := q.binding.merge .filter sub.binding } (l.addSub m) where
  joins := by simpa [Ledger.addSub] using h.joins
  wheres := by
    have hvalues := hsub.present_values_eq_iff.mpr hm.faithful
    simp only [Query.values] at hvalues
    simp [Ledger.addSub, h.wheres, hvalues]
  others k hjoin hfilter := by simpa [hfilter] using h.others k hjoin hfilter

theorem addJoin (h : Exact q l) {j : Join} {m : Ledger} (hjoin : Accounted j.query m)
    (hm : m.ofJoin.Solid) (hc : j.conditions.isEmpty = false) :
    Exact (q.addJoin j) (l.addJoin m) := by
  obtain ⟨hbinding, -, -⟩ := Query.addJoin_of_not_isEmpty (q := q) hc
  refine congr (q := { q with binding := q.binding.merge .join j.query.binding }) ?_ hbinding
  have hvalues := hjoin.ofJoin.present_values_eq_iff.mpr hm.faithful
  simp only [Query.values] at hvalues
  exact {
    joins := by simp [Ledger.addJoin, h.joins, hvalues]
    wheres := by simpa [Ledger.addJoin] using h.wheres
    others := fun k hjoin hfilter => by simpa [hjoin] using h.others k hjoin hfilter }

/-- A call keeps the values exact if its closure is solid. -/
theorem keeps (d : Dialect) :
    Keeps d Exact (fun sub m => Accounted sub m ∧ m.Solid)
      fun j m => Accounted j.query m ∧ m.ofJoin.Solid where
  empty := empty d
  congr h hbinding _ _ := h.congr hbinding
  add h hadds := h.add hadds.bound
  addSub logic column operator h hsub hf := by
    simp only [Query.compareSub, hf]
    exact (h.addSub hsub.1 hsub.2).congr rfl
  addJoin h hjoin hc := h.addJoin hjoin.1 hjoin.2 hc

theorem apply {d : Dialect} (h : Exact q l) (hd : q.dialect = d) {s : Step}
    (hs : s.hasSolidClosure = true) : Exact (q.apply s) (l.apply d s) := by
  refine (keeps d).apply h hd s ?_ ?_
  · rintro logic column operator steps rfl
    exact ⟨Accounted.run d steps, Ledger.Solid.empty.run steps hs⟩
  · rintro kind table steps rfl
    obtain ⟨hsolid, hjoins⟩ := Ledger.Solid.empty.runJoin (d := d) rfl steps hs
    exact ⟨Accounted.runJoin d kind table steps, hsolid.ofJoin hjoins⟩

theorem run {d : Dialect} (h : Exact q l) (hd : q.dialect = d) {steps : List Step}
    (hsteps : steps.all Step.hasSolidClosure = true) : Exact (q.run steps) (l.run d steps) := by
  induction steps generalizing q l with
  | nil => exact h
  | cons s ss ih =>
      rw [List.all_cons, Bool.and_eq_true] at hsteps
      obtain ⟨hs, hss⟩ := hsteps
      exact ih (h.apply hd hs) (by simp [hd]) hss

end Exact

/-- The placeholders of a select take the values bound for its query, and those of a delete the
values bound for it, whatever calls built the query and whatever values these were given outside
closures. -/
theorem takes_of_hasSolidClosure (d : Dialect) (steps : List Step)
    (hsteps : steps.all Step.hasSolidClosure = true) :
    (∀ sql, (Query.run (.empty d) steps).selectSql = .ok sql →
      Takes sql (Ledger.run d {} steps).calls (Query.run (.empty d) steps).values) ∧
    ∀ sql, (Query.run (.empty d) steps).deleteSql = .ok sql →
      Takes sql (Ledger.run d {} steps).wheres.flatten
        (Query.run (.empty d) steps).binding.deleteValues := by
  have hexact := (Exact.empty d).run rfl hsteps
  have hwritten := Written.run d steps
  constructor
  · intro sql hsql
    rw [hexact.values_eq]
    exact (hwritten.select hsql).takes
  · intro sql hsql
    rw [Binding.deleteValues_eq, hexact.wheres]
    exact (hwritten.delete hsql).takes

/-- Calls with closures within closures, and with nulls, lists and records outside of them. -/
def nestedCalls : List Step :=
  [.table "users as u",
    .among .and "id" [.null, .boolean (some true), .text none] false,
    .join .left "roles as r"
      [.on .and "u.role" "=" "r.id", .query (.compare .and "r.kind" "=" (.text (some "a?")))],
    .compare .or "name" "=" .null,
    .sub .and "u.id" "in"
      [.table "members", .select ["id"],
        .join .inner "teams" [.on .and "team" "?" "id", .query (.null .and "left" true)],
        .sub .and "kind" "in"
          [.table "kinds",
            .between .and "at" (.boolean (some false)) (.boolean (some true)) false],
        .among .and "rank" [.boolean (some true), .record []] false],
    .among .and "tags" [] true,
    .compare .and "extra" "=" (.record [])]

/-- The two statements of these calls have seven placeholders and six. -/
theorem takes_nestedCalls :
    nestedCalls.all Step.hasSolidClosure = true ∧
    (∃ sql, (Query.run (.empty .mysql) nestedCalls).selectSql = .ok sql ∧ sql.slots = 7 ∧
      Takes sql (Ledger.run .mysql {} nestedCalls).calls
        (Query.run (.empty .mysql) nestedCalls).values) ∧
    ∃ sql, (Query.run (.empty .mysql) nestedCalls).deleteSql = .ok sql ∧ sql.slots = 6 ∧
      Takes sql (Ledger.run .mysql {} nestedCalls).wheres.flatten
        (Query.run (.empty .mysql) nestedCalls).binding.deleteValues := by
  have hclosures : nestedCalls.all Step.hasSolidClosure = true := by decide
  obtain ⟨hselect, hdelete⟩ := takes_of_hasSolidClosure .mysql nestedCalls hclosures
  exact ⟨hclosures, ⟨_, rfl, by decide +kernel, hselect _ rfl⟩,
    _, rfl, by decide +kernel, hdelete _ rfl⟩

end SqlMapping
