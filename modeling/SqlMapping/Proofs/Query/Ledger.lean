import SqlMapping.Query.Step

/-! # Ledgers

A ledger records the calls that build a query: which predicates they add and which values they
supply, in the order in which a statement writes them. Joins stand before predicates, both in the
order of their calls, and the calls of a closure stand where the closure is called. -/

namespace SqlMapping

/-- A predicate with the values its call supplies for its placeholders. -/
structure Supply where
  predicate : Predicate
  values : List Value

def Supply.all (calls : List Supply) : List Value :=
  calls.flatMap Supply.values

/-- The calls behind a query. -/
structure Ledger where
  /-- For each join, the calls whose predicates it writes. -/
  joins : List (List Supply) := []
  /-- For each predicate, itself or the calls of its sub query. -/
  wheres : List (List Supply) := []
  /-- The calls of joins within joins: their values are bound, their predicates never written. -/
  unwritten : List Supply := []

@[simp] theorem Supply.all_nil : Supply.all [] = [] := rfl

@[simp] theorem Supply.all_append (cs ds : List Supply) :
    Supply.all (cs ++ ds) = Supply.all cs ++ Supply.all ds :=
  List.flatMap_append

@[simp] theorem Supply.all_singleton (c : Supply) : Supply.all [c] = c.values := by
  simp [Supply.all]

namespace Ledger

/-- The calls behind the predicates of a statement, joins first. -/
def calls (l : Ledger) : List Supply :=
  (l.joins ++ l.wheres).flatten

def add (l : Ledger) (predicate : Predicate) (values : List Value) : Ledger :=
  { l with wheres := l.wheres ++ [[⟨predicate, values⟩]] }

/-- Records a sub query, the calls behind which are written in its place. -/
def addSub (l sub : Ledger) : Ledger :=
  { l with wheres := l.wheres ++ [sub.calls], unwritten := l.unwritten ++ sub.unwritten }

/-- The ledger of a join's query. A join writes the predicates of its query, not its joins. -/
def ofJoin (l : Ledger) : Ledger :=
  { wheres := l.wheres, unwritten := l.unwritten ++ l.joins.flatten }

def addJoin (l join : Ledger) : Ledger :=
  { l with
    joins := l.joins ++ [join.ofJoin.calls]
    unwritten := l.unwritten ++ join.ofJoin.unwritten }

end Ledger

/-- Whether a call on a join adds a condition. -/
def JoinStep.isOn : JoinStep → Bool
  | on .. => true
  | query _ => false

mutual
/-- The ledger after a call. A call that cannot be followed is not recorded, neither is a join
without conditions. -/
def Ledger.apply (d : Dialect) (l : Ledger) : Step → Ledger
  | .compare logic column operator value =>
    match d.operator operator with
    | .ok op => l.add (.compare logic column op value) value.bound
    | .error _ => l
  | .among logic column values negated =>
    l.add (.among logic column values negated) (Value.list values).bound
  | .between logic column first last negated =>
    if Query.isBound first && Query.isBound last then
      l.add (.between logic column negated) [first, last]
    else l
  | .null logic column negated => l.add (.null logic column negated) []
  | .sub _ _ _ steps =>
    if (Query.run (.empty d) steps).failure.isSome then l else l.addSub (Ledger.run d {} steps)
  | .join _ _ steps =>
    if steps.any JoinStep.isOn then l.addJoin (Ledger.runJoin d {} steps) else l
  | .reset => {}
  | _ => l
def Ledger.run (d : Dialect) (l : Ledger) : List Step → Ledger
  | [] => l
  | s :: ss => Ledger.run d (l.apply d s) ss
def Ledger.applyJoin (d : Dialect) (l : Ledger) : JoinStep → Ledger
  | .on .. => l
  | .query s => l.apply d s
def Ledger.runJoin (d : Dialect) (l : Ledger) : List JoinStep → Ledger
  | [] => l
  | s :: ss => Ledger.runJoin d (l.applyJoin d s) ss
end

/-! ## What calls keep of a query -/

@[simp] theorem Query.fail_dialect (q : Query) (c : Cause) : (q.fail c).dialect = q.dialect := by
  unfold Query.fail
  split <;> rfl

@[simp] theorem Query.fail_binding (q : Query) (c : Cause) : (q.fail c).binding = q.binding := by
  unfold Query.fail
  split <;> rfl

@[simp] theorem Query.fail_joins (q : Query) (c : Cause) : (q.fail c).joins = q.joins := by
  unfold Query.fail
  split <;> rfl

@[simp] theorem Query.fail_wheres (q : Query) (c : Cause) : (q.fail c).wheres = q.wheres := by
  unfold Query.fail
  split <;> rfl

theorem Query.addJoin_of_isEmpty {q : Query} {j : Join} (h : j.conditions.isEmpty = true) :
    (q.addJoin j).binding = q.binding ∧ (q.addJoin j).joins = q.joins ∧
      (q.addJoin j).wheres = q.wheres := by
  simp only [Query.addJoin, h, if_true]
  split <;> simp

theorem Query.addJoin_of_not_isEmpty {q : Query} {j : Join} (h : j.conditions.isEmpty = false) :
    (q.addJoin j).binding = q.binding.merge .join j.query.binding ∧
      (q.addJoin j).joins = q.joins ++ [j] ∧ (q.addJoin j).wheres = q.wheres := by
  simp only [Query.addJoin, h, Bool.false_eq_true, if_false]
  split <;> simp

@[simp] theorem Query.apply_dialect (q : Query) (s : Step) : (q.apply s).dialect = q.dialect := by
  cases s with
  | compare logic column operator value =>
      simp only [Query.apply, Query.compare]
      split <;> simp [Query.bind, Query.addWhere]
  | between logic column first last negated =>
      simp only [Query.apply, Query.between]
      split <;> simp [Query.bind, Query.addWhere]
  | sub logic column operator steps =>
      simp only [Query.apply, Query.compareSub]
      split <;> simp
  | join kind table steps =>
      simp only [Query.apply, Query.addJoin]
      split <;> split <;> simp
  | take rows =>
      simp only [Query.apply, Query.take]
      split <;> rfl
  | _ => rfl

theorem Query.run_dialect (q : Query) (steps : List Step) : (q.run steps).dialect = q.dialect := by
  induction steps generalizing q with
  | nil => rfl
  | cons s ss ih => exact (ih (q.apply s)).trans (q.apply_dialect s)

/-- A join is kept if one of its calls adds a condition. -/
theorem Join.conditions_run (j : Join) (steps : List JoinStep) :
    (Join.run j steps).conditions.isEmpty = (j.conditions.isEmpty && !steps.any JoinStep.isOn) := by
  induction steps generalizing j with
  | nil => simp [Join.run]
  | cons s ss ih =>
      rw [Join.run, ih]
      cases s with
      | on logic first operator second => simp [Join.apply, Join.on, JoinStep.isOn]
      | query s => simp [Join.apply, JoinStep.isOn]

theorem Join.conditions_run_start (d : Dialect) (kind : JoinKind) (table : String)
    (steps : List JoinStep) :
    (Join.run (Join.start d kind table) steps).conditions.isEmpty =
      !steps.any JoinStep.isOn := by
  rw [Join.conditions_run]
  rfl

/-! ## What calls do -/

/-- The predicates that calls add of themselves: with the values that are bound for one, and those
that it supplies for its placeholders. -/
inductive Adds (d : Dialect) : Predicate → List Value → List Value → Prop where
  | compare (logic : Logic) (column : String) (value : Value) {operator op : String}
      (h : d.operator operator = .ok op) :
      Adds d (.compare logic column op value) [value] value.bound
  | among (logic : Logic) (column : String) (values : List Value) (negated : Bool) :
      Adds d (.among logic column values negated) [.list values] (Value.list values).bound
  | between (logic : Logic) (column : String) (negated : Bool) {first last : Value}
      (hfirst : Query.isBound first = true) (hlast : Query.isBound last = true) :
      Adds d (.between logic column negated) [first, last] [first, last]
  | null (logic : Logic) (column : String) (negated : Bool) :
      Adds d (.null logic column negated) [] []

/-- A relation between queries and ledgers that calls keep: `R` holds of the query that is called,
`S` of the queries of its sub queries and `J` of the joins it is given. -/
structure Keeps (d : Dialect) (R S : Query → Ledger → Prop) (J : Join → Ledger → Prop) :
    Prop where
  empty : R (.empty d) {}
  congr {q q' : Query} {l : Ledger} : R q l → q'.binding = q.binding → q'.joins = q.joins →
    q'.wheres = q.wheres → R q' l
  add {q : Query} {l : Ledger} {p : Predicate} {values supplied : List Value} :
    R q l → Adds d p values supplied → R ((q.bind values).addWhere p) (l.add p supplied)
  addSub {q sub : Query} {l m : Ledger} (logic : Logic) (column operator : String) :
    R q l → S sub m → sub.failure = none →
      R (q.compareSub logic column operator sub) (l.addSub m)
  addJoin {q : Query} {j : Join} {l m : Ledger} :
    R q l → J j m → j.conditions.isEmpty = false → R (q.addJoin j) (l.addJoin m)

namespace Keeps

variable {d : Dialect} {R S : Query → Ledger → Prop} {J : Join → Ledger → Prop}

theorem fail (h : Keeps d R S J) {q : Query} {l : Ledger} (hR : R q l) (c : Cause) :
    R (q.fail c) l :=
  h.congr hR (Query.fail_binding q c) (Query.fail_joins q c) (Query.fail_wheres q c)

/-- One call keeps the relation if its closure establishes those of closures. -/
theorem apply (h : Keeps d R S J) {q : Query} {l : Ledger} (hR : R q l) (hd : q.dialect = d)
    (s : Step)
    (hsub : ∀ logic column operator steps, s = .sub logic column operator steps →
      S (Query.run (.empty d) steps) (Ledger.run d {} steps))
    (hjoin : ∀ kind table steps, s = .join kind table steps →
      J (Join.run (Join.start d kind table) steps) (Ledger.runJoin d {} steps)) :
    R (q.apply s) (l.apply d s) := by
  cases s with
  | reset =>
      simp only [Query.apply, hd]
      exact h.empty
  | take rows =>
      simp only [Query.apply, Query.take]
      split
      · exact h.congr hR rfl rfl rfl
      · exact hR
  | compare logic column operator value =>
      simp only [Query.apply, Query.compare, Ledger.apply, hd]
      cases hop : d.operator operator with
      | error c => exact h.fail hR c
      | ok op => exact h.add hR (.compare logic column value hop)
  | among logic column values negated => exact h.add hR (.among logic column values negated)
  | between logic column first last negated =>
      simp only [Query.apply, Query.between, Ledger.apply]
      split
      · rename_i hbound
        obtain ⟨hfirst, hlast⟩ := Bool.and_eq_true_iff.mp hbound
        exact h.add hR (.between logic column negated hfirst hlast)
      · exact h.fail hR _
  | null logic column negated =>
      refine h.congr (h.add hR (.null logic column negated)) ?_ rfl rfl
      simp [Query.apply, Query.addWhere, Query.bind, Binding.addAll]
  | sub logic column operator steps =>
      have hS := hsub logic column operator steps rfl
      simp only [Query.apply, Ledger.apply, hd]
      cases hf : (Query.run (.empty d) steps).failure with
      | some c =>
          simp only [Query.compareSub, hf]
          exact h.fail hR c
      | none => exact h.addSub logic column operator hR hS hf
  | join kind table steps =>
      have hJ := hjoin kind table steps rfl
      have hon := Join.conditions_run_start d kind table steps
      simp only [Query.apply, Ledger.apply, hd]
      cases hany : steps.any JoinStep.isOn with
      | true => exact h.addJoin hR hJ (by simp [hon, hany])
      | false =>
          obtain ⟨hbinding, hjoins, hwheres⟩ :=
            Query.addJoin_of_isEmpty (q := q)
              (j := Join.run (Join.start d kind table) steps) (by simp [hon, hany])
          exact h.congr hR hbinding hjoins hwheres
  | _ => exact h.congr hR rfl rfl rfl

mutual
/-- A relation that also holds of closures is kept by every call. -/
theorem applyAll (h : Keeps d R R fun j m => R j.query m) {q : Query} {l : Ledger} (hR : R q l)
    (hd : q.dialect = d) : ∀ s : Step, R (q.apply s) (l.apply d s)
  | .sub logic column operator steps =>
      h.apply hR hd _ (by rintro _ _ _ _ ⟨⟩; exact run h h.empty rfl steps) nofun
  | .join kind table steps =>
      h.apply hR hd _ nofun (by rintro _ _ _ ⟨⟩; exact runJoin h h.empty rfl steps)
  | .table _ | .aliased _ | .distinct | .select _ | .compare .. | .among .. | .between ..
  | .null .. | .order .. | .skip _ | .take _ | .reset =>
      h.apply hR hd _ nofun nofun
theorem run (h : Keeps d R R fun j m => R j.query m) {q : Query} {l : Ledger} (hR : R q l)
    (hd : q.dialect = d) : ∀ steps : List Step, R (q.run steps) (l.run d steps)
  | [] => hR
  | s :: ss => run h (applyAll h hR hd s) (by simp [hd]) ss
theorem applyJoin (h : Keeps d R R fun j m => R j.query m) {j : Join} {l : Ledger}
    (hR : R j.query l) (hd : j.query.dialect = d) :
    ∀ s : JoinStep, R (j.apply s).query (l.applyJoin d s)
  | .on .. => hR
  | .query s => applyAll h hR hd s
theorem runJoin (h : Keeps d R R fun j m => R j.query m) {j : Join} {l : Ledger}
    (hR : R j.query l) (hd : j.query.dialect = d) :
    ∀ steps : List JoinStep, R (j.run steps).query (l.runJoin d steps)
  | [] => hR
  | s :: ss =>
      runJoin h (applyJoin h hR hd s) (by cases s <;> simp [Join.apply, Join.on, hd]) ss
end

end Keeps

end SqlMapping
