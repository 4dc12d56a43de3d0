import SqlMapping.Proofs.Mapping.Fields
import SqlMapping.Proofs.Query.Placement
import SqlMapping.Query.Write

/-! # Values of updates

An update is written as joins, set clause and predicates, and binds its values in this order,
although the set clause is no part of the query. A value that is set takes one placeholder whatever
it is. -/

namespace SqlMapping

/-! ## What is set -/

/-- What a payload sets: the entries of a record; of an object the columns of its leaves, each once
and with the value of the member that the last leaf of the column leads to, unless this member is
zero and not kept by its tag. -/
inductive Sets (naming : Naming) (q : Query) : Payload → List (String × Value) → Prop where
  | record (r : Record) : Sets naming q (.record r) r
  | object {o : Object} {m : Mapping} {set : List (String × Value)}
      (hparse : (Mapping.setTable { naming, aliases := some q.aliases } q.table).parse .update o =
        ⟨m, none⟩)
      (hcolumns : (set.map (·.1)).Nodup)
      (hvalues : ∀ c v, (c, v) ∈ set ↔
        ∃ f g, (m.leavesOf o).reverse.find? (·.column = c) = some f ∧ o.at? f.path = some g ∧
          ¬ (g.isZero ∧ f.tag.updateZero = false) ∧ v = g.toValue) :
      Sets naming q (.object o) set

namespace Mapping

variable {m : Mapping}

/-- What a leaf sets is the value of its member. -/
theorem updateValue?_eq_some_iff {m₀ : Mapping} {mode : Mode} {o : Object} {f : MappedField}
    (h : m₀.parse mode o = ⟨m, none⟩) (hf : f ∈ m.leavesOf o) (v : Value) :
    f.updateValue? = some v ↔
      ∃ g, o.at? f.path = some g ∧ ¬ (g.isZero ∧ f.tag.updateZero = false) ∧ v = g.toValue := by
  obtain ⟨l, c, hat, rfl⟩ := exists_leaf_of_mem_leavesOf h hf
  have hpath : o.at? (l.mapped c).path = some l.field := hat
  rw [hpath, Leaf.updateValue?_mapped]
  simp only [Option.some.injEq, exists_eq_left']
  split
  case isTrue hleft => exact ⟨nofun, fun hset => absurd hleft hset.1⟩
  case isFalse hkept =>
      exact ⟨fun hv => ⟨hkept, (Option.some.inj hv).symm⟩, fun hv => congrArg some hv.2.symm⟩

theorem nodup_columns_updateValues (h : (m.fields.map MappedField.column).Nodup) :
    (m.updateValues.map (·.1)).Nodup := by
  have hsublist : (m.updateValues.map (·.1)).Sublist (m.fields.map MappedField.column) := by
    unfold updateValues
    induction m.fields with
    | nil => simp
    | cons f fs ih =>
        cases hv : f.updateValue? with
        | none => simpa [hv] using ih.cons f.column
        | some v => simpa [hv] using ih.cons_cons f.column
  exact h.sublist hsublist

theorem mem_updateValues_iff (h : (m.fields.map MappedField.column).Nodup) (c : String)
    (v : Value) :
    (c, v) ∈ m.updateValues ↔ ∃ f, m.field? c = some f ∧ f.updateValue? = some v := by
  simp only [updateValues, List.mem_filterMap, Option.map_eq_some_iff, Prod.mk.injEq]
  constructor
  · rintro ⟨f, hf, w, hw, rfl, rfl⟩
    exact ⟨f, (mem_fields_iff h).mp hf, hw⟩
  · rintro ⟨f, hf, hv⟩
    obtain rfl : f.column = c := by simpa using List.find?_some hf
    exact ⟨f, (mem_fields_iff h).mpr hf, v, hv, rfl, rfl⟩

end Mapping

theorem Assignments.sets_of_ofPayload {naming : Naming} {q : Query} {p : Payload}
    {a : Assignments} (h : ofPayload naming q p = .ok a) : Sets naming q p a.values := by
  cases p with
  | object o =>
      simp only [ofPayload, Result.bind_eq_ok, Attempt.result_eq_ok] at h
      obtain ⟨-, hparse, h⟩ := h
      split at h
      · cases h
      · obtain rfl := Except.ok.inj h
        have hfields := Mapping.fields_of_parse hparse
        have hnodup := hfields ▸ Mapping.nodup_columns_collect _
        refine .object hparse (Mapping.nodup_columns_updateValues hnodup) fun c v => ?_
        rw [Mapping.mem_updateValues_iff hnodup, Mapping.field?, hfields, Mapping.find?_collect]
        refine exists_congr fun f => ?_
        rw [exists_and_left]
        refine and_congr_right fun hf => ?_
        exact Mapping.updateValue?_eq_some_iff hparse
          (List.mem_reverse.mp (List.mem_of_find?_eq_some hf)) v
  | record r =>
      simp only [ofPayload] at h
      split at h
      · cases h
      · split at h
        · cases h
        · obtain rfl := Except.ok.inj h
          exact .record r
  | objects os => cases h
  | records rs => cases h

/-! ## The set clause -/

/-- What sets a column. -/
def Sql.assignment (column : String) : Sql :=
  Sql.column column ++ [.word " = ", .mark]

@[simp] theorem Sql.slots_assignment (column : String) : slots (assignment column) = 1 := by
  simp [assignment]

theorem Assignments.sql_eq (a : Assignments) :
    a.sql = .word " set " ::
      Text.joinPieces [.word ","] (a.values.map fun cv => Sql.assignment cv.1) := rfl

/-- The placeholders of a set clause: one for each column, in its assignment. -/
structure Assigns (sql : Sql) (set : List (String × Value)) : Prop where
  slots : sql.slots = set.length
  placed : ∀ k c v, set[k]? = some (c, v) →
    ∃ s t, sql = s ++ Sql.assignment c ++ t ∧ Sql.slots s = k

namespace Assigns

theorem append {s : Sql} {set : List (String × Value)} (h : Assigns s set) (c : String)
    (v : Value) (before : Sql) (hbefore : before.slots = 0) :
    Assigns (s ++ before ++ Sql.assignment c) (set ++ [(c, v)]) where
  slots := by simp [h.slots, hbefore]
  placed k c' v' hk := by
    rw [List.getElem?_append] at hk
    split at hk
    · obtain ⟨s', t, rfl, hs⟩ := h.placed k c' v' hk
      exact ⟨s', t ++ before ++ Sql.assignment c, by simp, hs⟩
    · rename_i hlength
      obtain ⟨hlast, hcv⟩ := List.getElem?_eq_some_iff.mp hk
      obtain ⟨rfl, rfl⟩ : c = c' ∧ v = v' := by simpa using hcv
      have hk : k = set.length := by
        rw [List.length_singleton] at hlast
        omega
      exact ⟨s ++ before, [], by simp, by simp [h.slots, hbefore, hk]⟩

theorem appendAll {s : Sql} {set : List (String × Value)} (h : Assigns s set)
    (values : List (String × Value)) :
    Assigns (s ++ values.flatMap fun cv => .word "," :: Sql.assignment cv.1) (set ++ values) := by
  induction values generalizing s set with
  | nil => simpa using h
  | cons cv values ih =>
      have hnext := h.append cv.1 cv.2 [.word ","] rfl
      simpa using ih hnext

theorem ofAssignments (a : Assignments) : Assigns a.sql a.values := by
  have hstart : Assigns [] [] := ⟨rfl, by simp⟩
  rw [Assignments.sql_eq]
  cases a.values with
  | nil => exact ⟨rfl, by simp⟩
  | cons cv values =>
      have hfirst := hstart.append cv.1 cv.2 [.word " set "] rfl
      have hfilter : (values.map fun cv => Sql.assignment cv.1).filter (!·.isEmpty) =
          values.map fun cv => Sql.assignment cv.1 := by
        rw [List.filter_eq_self]
        intro s hs
        obtain ⟨cv, -, rfl⟩ := List.mem_map.mp hs
        simp [Sql.assignment]
      rw [List.map_cons, Text.joinPieces_cons (by simp [Sql.assignment]), hfilter,
        List.flatMap_map]
      simpa using hfirst.appendAll values

end Assigns

/-! ## The statement -/

theorem Query.updateSql_eq_ok {q : Query} {naming : Naming} {p : Payload} {sql : Sql}
    {values : List Value} :
    q.updateSql naming p = .ok (sql, values) ↔
      q.failure = none ∧ ∃ a, Assignments.ofPayload naming q p = .ok a ∧
        a.table.isEmpty = false ∧
          ∃ joins wheres, joinsSql q.joins = .ok joins ∧ wheresSql q.wheres = .ok wheres ∧
            (.word "update " :: Sql.tableRef a.table ++
              (if (Sql.phrase joins).isEmpty then [] else .word " " :: Sql.phrase joins) ++ a.sql ++
                if (Sql.filter wheres).isEmpty then [] else .word " " :: Sql.filter wheres) =
              sql ∧
            q.binding.clauseValues .join ++ q.binding.updateValues (a.values.map (·.2)) =
              values := by
  simp only [updateSql, joinsText, filterSql, Result.bind_eq_ok, check_eq_ok]
  constructor
  · rintro ⟨-, hfailure, a, ha, h⟩
    split at h
    · cases h
    · rename_i htable
      simp only [Result.bind_eq_ok, Result.map_eq_ok, pure, Except.pure, Except.ok.injEq,
        Prod.mk.injEq] at h
      obtain ⟨_, ⟨joins, hjoins, rfl⟩, _, ⟨wheres, hwheres, rfl⟩, hsql, hvalues⟩ := h
      exact ⟨hfailure, a, ha, by simpa using htable, joins, wheres, hjoins, hwheres, hsql, hvalues⟩
  · rintro ⟨hfailure, a, ha, htable, joins, wheres, hjoins, hwheres, rfl, rfl⟩
    refine ⟨(), hfailure, a, ha, ?_⟩
    rw [if_neg (by simp [htable]), hjoins, hwheres]
    rfl

/-- What an update binds: the values of its joins, those that are set, and those of its
predicates, each for a placeholder in its own clause. -/
structure Updates (sql : Sql) (l : Ledger) (set : List (String × Value)) (values : List Value) :
    Prop where
  slots : sql.slots = values.length
  clauses : ∃ before clause after joined filtered, sql = before ++ clause ++ after ∧
    values = joined ++ set.map (·.2) ++ filtered ∧ Takes before l.joins.flatten joined ∧
      Assigns clause set ∧ Takes after l.wheres.flatten filtered

/-- The placeholders of an update take the values bound for it in the order of its text, whatever
calls built the query and whatever is set, a null, a list or a record included. -/
theorem updates_of_hasSolidClosure (d : Dialect) (steps : List Step)
    (hsteps : steps.all Step.hasSolidClosure = true) (naming : Naming) (p : Payload) (sql : Sql)
    (values : List Value)
    (h : (Query.run (.empty d) steps).updateSql naming p = .ok (sql, values)) :
    ∃ set, Sets naming (Query.run (.empty d) steps) p set ∧
      Updates sql (Ledger.run d {} steps) set values := by
  obtain ⟨-, a, hassignments, -, joins, wheres, hjoins, hwheres, rfl, rfl⟩ :=
    Query.updateSql_eq_ok.mp h
  have hexact : Exact _ (Ledger.run d {} steps) := (Exact.empty d).run rfl hsteps
  have hwritten := Written.run d steps
  have hbefore : Aligned _ (Ledger.run d {} steps).joins.flatten :=
    Aligned.after (s := .word "update " :: Sql.tableRef a.table) (by simp)
      (Aligned.phrase (aligned_joins hwritten.joins joins hjoins)).spaced
  have hafter : Aligned _ (Ledger.run d {} steps).wheres.flatten :=
    (aligned_filter hwritten.wheres wheres hwheres).spaced
  have hclause := Assigns.ofAssignments a
  have hvalues : (Query.run (.empty d) steps).binding.updateValues (a.values.map (·.2)) =
      a.values.map (·.2) ++ Supply.all (Ledger.run d {} steps).wheres.flatten := by
    simp [Binding.updateValues_eq, hexact.others, hexact.wheres]
  refine ⟨a.values, Assignments.sets_of_ofPayload hassignments, ?_, ?_⟩
  · rw [hexact.joins, hvalues, Sql.slots_append, Sql.slots_append, hbefore.slots, hafter.slots,
      hclause.slots]
    simp [Nat.add_assoc]
  · refine ⟨_, _, _, _, _, rfl, ?_, hbefore.takes, hclause, hafter.takes⟩
    rw [hexact.joins, hvalues, List.append_assoc]

/-- A record of values that no predicate binds as they are. -/
def oddRecord : Record :=
  [("a?", .null), ("b", .list [.null, .boolean (some true)]), ("c", .record [])]

/-- An object with a leaf that is left out, one that is written although it is zero, and two leaves
of one column. -/
def taggedObject : Object :=
  { label := "Thing", typeName := "", table := "things as t", primaryKey := "id"
    members :=
      [.field "id" "col:id" (.scalar (.text "")),
        .field "rank" "col:rank;update_zero:true" (.scalar (.boolean false)),
        .field "name" "col:name" (.scalar (.text "old")),
        .field "note" "col:name" (.optional .text "String" (some (.scalar (.text "")))
          (some (.scalar (.text "new"))))] }

theorem updates_nestedCalls :
    nestedCalls.all Step.hasSolidClosure = true ∧
    (∃ sql values, (Query.run (.empty .mysql) nestedCalls).updateSql .snake (.record oddRecord) =
      .ok (sql, values) ∧ values.length = 10 ∧
        ∃ set, Sets .snake (Query.run (.empty .mysql) nestedCalls) (.record oddRecord) set ∧
          Updates sql (Ledger.run .mysql {} nestedCalls) set values) ∧
    ∃ sql values, (Query.run (.empty .mysql) nestedCalls).updateSql .snake (.object taggedObject) =
      .ok (sql, values) ∧ values.length = 9 ∧
        ∃ set, Sets .snake (Query.run (.empty .mysql) nestedCalls) (.object taggedObject) set ∧
          Updates sql (Ledger.run .mysql {} nestedCalls) set values := by
  have hclosures : nestedCalls.all Step.hasSolidClosure = true := by decide
  have hupdate := updates_of_hasSolidClosure .mysql nestedCalls hclosures .snake
  exact ⟨hclosures, ⟨_, _, rfl, by decide +kernel, hupdate _ _ _ rfl⟩,
    _, _, rfl, by decide +kernel, hupdate _ _ _ rfl⟩

end SqlMapping
