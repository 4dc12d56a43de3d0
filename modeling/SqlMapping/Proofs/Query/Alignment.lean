import Mathlib.Data.List.Forall2
import SqlMapping.Proofs.Query.Equations
import SqlMapping.Proofs.Query.Ledger
import SqlMapping.Proofs.Query.Placeholder

/-! # Alignment of texts with ledgers

Whatever calls build a query, the text compiled from it has its placeholders in the predicates of
the recorded calls, in the order of the ledger and as many in each as its call supplies values. -/

namespace SqlMapping

open List (Forall₂)

/-- The placeholders of a text belong to some calls in their order: the predicate of each call
stands in the text after the placeholders of the calls before it, with a placeholder for each
value of the call. -/
structure Aligned (sql : Sql) (calls : List Supply) : Prop where
  slots : sql.slots = (Supply.all calls).length
  stands : ∀ before c after, calls = before ++ c :: after →
    ∃ s body t, c.predicate.body = .ok body ∧ sql = s ++ body ++ t ∧
      Sql.slots s = (Supply.all before).length ∧ Sql.slots body = c.values.length

namespace Aligned

theorem wording {s : Sql} (h : s.slots = 0) : Aligned s [] where
  slots := h
  stands before c after hsplit := by simp at hsplit

theorem predicate {c : Supply} {body : Sql} (hbody : c.predicate.body = .ok body)
    (h : body.slots = c.values.length) : Aligned body [c] where
  slots := by simpa using h
  stands before c' after hsplit := by
    obtain ⟨rfl, hcons⟩ : before = [] ∧ [c] = c' :: after := by
      cases before with
      | nil => exact ⟨rfl, hsplit⟩
      | cons b before => simp at hsplit
    obtain ⟨rfl, rfl⟩ : c = c' ∧ [] = after := by simpa using hcons
    exact ⟨[], body, [], hbody, by simp, rfl, h⟩

theorem append {s t : Sql} {cs ds : List Supply} (hs : Aligned s cs) (ht : Aligned t ds) :
    Aligned (s ++ t) (cs ++ ds) where
  slots := by simp [hs.slots, ht.slots]
  stands before c after hsplit := by
    -- A call of the second text comes after all placeholders of the first one.
    have hlater : ∀ between, before = cs ++ between → ds = between ++ c :: after →
        ∃ s' body t', c.predicate.body = .ok body ∧ s ++ t = s' ++ body ++ t' ∧
          Sql.slots s' = (Supply.all before).length ∧ Sql.slots body = c.values.length := by
      rintro between rfl hds
      obtain ⟨t₁, body, t₂, hbody, rfl, hbefore, hvalues⟩ := ht.stands between c after hds
      refine ⟨s ++ t₁, body, t₂, hbody, by simp, ?_, hvalues⟩
      simp [hs.slots, hbefore]
    rcases List.append_eq_append_iff.mp hsplit with ⟨between, hbefore, hds⟩ | ⟨rest, hcs, hrest⟩
    · exact hlater between hbefore hds
    · cases rest with
      | nil => exact hlater [] (by simpa using hcs.symm) (by simpa using hrest.symm)
      | cons c' rest =>
          obtain ⟨rfl, rfl⟩ : c = c' ∧ after = rest ++ ds := by simpa using hrest
          obtain ⟨s₁, body, s₂, hbody, rfl, hbefore, hvalues⟩ := hs.stands before c rest hcs
          exact ⟨s₁, body, s₂ ++ t, hbody, by simp, hbefore, hvalues⟩

theorem after {s t : Sql} {cs : List Supply} (h : s.slots = 0) (ht : Aligned t cs) :
    Aligned (s ++ t) cs :=
  (wording h).append ht

theorem before {s t : Sql} {cs : List Supply} (h : t.slots = 0) (hs : Aligned s cs) :
    Aligned (s ++ t) cs := by
  simpa using hs.append (wording h)

/-- A text that is written behind a blank unless it is empty. -/
theorem spaced {s : Sql} {cs : List Supply} (h : Aligned s cs) :
    Aligned (if s.isEmpty then [] else .word " " :: s) cs := by
  split
  · rename_i hempty
    rwa [List.isEmpty_iff.mp hempty] at h
  · exact Aligned.after (s := [.word " "]) rfl h

theorem joinPieces {separator : Sql} (hseparator : separator.slots = 0) {ps : List Sql}
    {gs : List (List Supply)} (h : Forall₂ Aligned ps gs) :
    Aligned (Text.joinPieces separator ps) gs.flatten := by
  have hfrom : ∀ first out cs, Aligned out cs →
      Aligned (Text.appendPieces separator first out ps) (cs ++ gs.flatten) := by
    induction h with
    | nil =>
        intro first out cs hout
        simpa [Text.appendPieces] using hout
    | @cons p g ps gs hp _ ih =>
        intro first out cs hout
        rw [List.flatten_cons, ← List.append_assoc]
        cases p with
        | nil =>
            rw [Text.appendPieces_nil_cons]
            exact ih first out _ (by simpa using hout.append hp)
        | cons a p =>
            rw [Text.appendPieces_cons (List.cons_ne_nil a p)]
            apply ih false
            refine (hout.before ?_).append hp
            cases first with
            | true => rfl
            | false => exact hseparator
  exact hfrom true [] [] (wording rfl)

theorem phrase {ps : List Sql} {gs : List (List Supply)} (h : Forall₂ Aligned ps gs) :
    Aligned (Sql.phrase ps) gs.flatten :=
  joinPieces rfl h

end Aligned

/-! ## Predicates and joins -/

/-- The text of a predicate belongs to some calls, if it has one. -/
def Predicate.Carries (p : Predicate) (calls : List Supply) : Prop :=
  ∀ sql, p.body = .ok sql → Aligned sql calls

def Join.Carries (j : Join) (calls : List Supply) : Prop :=
  ∀ sql, j.sql = .ok sql → Aligned sql calls

theorem slots_plain {column before after : String} {marks : Sql}
    (hbefore : before.toList.count '?' = 0) (hafter : after.toList.count '?' = 0) :
    Sql.slots (Predicate.plain column before marks after) = marks.slots := by
  unfold Predicate.plain
  split
  · rename_i hempty
    rw [List.isEmpty_iff.mp hempty]
  · simp [hbefore, hafter]

/-- A predicate without a sub query carries its own call, if it has the placeholders. -/
theorem Predicate.carries_of_slots {p : Predicate} {body : Sql} {values : List Value}
    (hbody : p.body = .ok body) (h : body.slots = values.length) : p.Carries [⟨p, values⟩] := by
  intro sql hsql
  rw [hbody] at hsql
  cases hsql
  exact .predicate hbody h

/-- The predicate of a call has a placeholder for each value that the call supplies. -/
theorem Adds.carries {d : Dialect} {p : Predicate} {values supplied : List Value}
    (h : Adds d p values supplied) : p.Carries [⟨p, supplied⟩] := by
  cases h with
  | compare logic column value hop =>
      refine Predicate.carries_of_slots rfl ?_
      rw [slots_plain (by simp [Dialect.count_operator hop]) rfl, Sql.slots_placeholdersFor]
  | among logic column values negated =>
      refine Predicate.carries_of_slots rfl ?_
      rw [slots_plain (by cases negated <;> rfl) rfl, Sql.slots_placeholdersFor]
  | between logic column negated hfirst hlast =>
      refine Predicate.carries_of_slots rfl ?_
      cases negated <;> simp [Sql.negation]
  | null logic column negated =>
      refine Predicate.carries_of_slots rfl ?_
      cases negated <;> simp [Sql.negation]

/-- Predicates that continue a clause keep the order of their calls; one without a placeholder is
left out together with nothing. -/
theorem aligned_continued {ps : List Predicate} {gs : List (List Supply)}
    (h : Forall₂ Predicate.Carries ps gs) :
    ∀ conds, wheresSql ps = .ok conds → Aligned (Sql.continued conds) gs.flatten := by
  induction h with
  | nil =>
      intro conds hconds
      cases hconds
      exact .wording rfl
  | @cons p g ps gs hp _ ih =>
      intro conds hconds
      obtain ⟨first, rest, hfirst, hrest, rfl⟩ := wheresSql_cons_eq_ok.mp hconds
      have hbody : Aligned first g := hp first hfirst
      split
      · rename_i hempty
        obtain rfl : first = [] := by simpa using hempty
        exact hbody.append (ih rest hrest)
      · refine Aligned.append ?_ (ih rest hrest)
        exact Aligned.after (s := [.word " ", .word (p.logic.word ++ " ")])
          (by cases p.logic <;> rfl) hbody

theorem aligned_filter {ps : List Predicate} {gs : List (List Supply)}
    (h : Forall₂ Predicate.Carries ps gs) :
    ∀ conds, wheresSql ps = .ok conds → Aligned (Sql.filter conds) gs.flatten := by
  induction h with
  | nil =>
      intro conds hconds
      cases hconds
      exact .wording rfl
  | @cons p g ps gs hp htail ih =>
      intro conds hconds
      obtain ⟨first, rest, hfirst, hrest, rfl⟩ := wheresSql_cons_eq_ok.mp hconds
      have hbody : Aligned first g := hp first hfirst
      split
      · rename_i hempty
        obtain rfl : first = [] := by simpa using hempty
        exact hbody.append (ih rest hrest)
      · rw [Sql.filter_cons]
        refine Aligned.append ?_ (aligned_continued htail rest hrest)
        exact Aligned.after (s := [.word "where "]) rfl hbody

theorem aligned_joins {js : List Join} {gs : List (List Supply)}
    (h : Forall₂ Join.Carries js gs) :
    ∀ sqls, joinsSql js = .ok sqls → Forall₂ Aligned sqls gs := by
  induction h with
  | nil =>
      intro sqls hsqls
      cases hsqls
      exact .nil
  | cons hj _ ih =>
      intro sqls hsqls
      obtain ⟨first, rest, hfirst, hrest, rfl⟩ := joinsSql_cons_eq_ok.mp hsqls
      exact .cons (hj first hfirst) (ih rest hrest)

/-! ## Queries -/

/-- The joins and predicates of a query are those of its ledger. -/
structure Written (q : Query) (l : Ledger) : Prop where
  joins : Forall₂ Join.Carries q.joins l.joins
  wheres : Forall₂ Predicate.Carries q.wheres l.wheres

namespace Written

variable {q : Query} {l : Ledger}

theorem empty (d : Dialect) : Written (.empty d) {} := ⟨.nil, .nil⟩

theorem congr (h : Written q l) {q' : Query} (hjoins : q'.joins = q.joins)
    (hwheres : q'.wheres = q.wheres) : Written q' l :=
  ⟨hjoins ▸ h.joins, hwheres ▸ h.wheres⟩

theorem select (h : Written q l) {sql : Sql} (hsql : q.selectSql = .ok sql) :
    Aligned sql l.calls := by
  obtain ⟨-, -, joins, wheres, hjoins, hwheres, rfl⟩ := Query.selectSql_eq_ok.mp hsql
  have hparts : Forall₂ Aligned
      [Sql.selection q.distinct q.columns, Sql.source q.table, Sql.phrase joins,
        Sql.filter wheres, Sql.order q.orderColumns q.direction, Sql.page q.limit q.offset]
      [[], [], l.joins.flatten, l.wheres.flatten, [], []] := by
    refine .cons (.wording (by simp)) (.cons (.wording (by simp)) (.cons ?_ (.cons ?_
      (.cons (.wording (by simp)) (.cons (.wording (by simp)) .nil)))))
    · exact .phrase (aligned_joins h.joins joins hjoins)
    · exact aligned_filter h.wheres wheres hwheres
  simpa [Ledger.calls] using Aligned.phrase hparts

theorem delete (h : Written q l) {sql : Sql} (hsql : q.deleteSql = .ok sql) :
    Aligned sql l.wheres.flatten := by
  obtain ⟨-, -, wheres, hwheres, rfl⟩ := Query.deleteSql_eq_ok.mp hsql
  have hfilter := aligned_filter h.wheres wheres hwheres
  exact Aligned.after (s := .word "delete from " :: Sql.table q.table.name) rfl hfilter.spaced

theorem join {j : Join} (h : Written j.query l) : j.Carries l.ofJoin.calls := by
  intro sql hsql
  obtain ⟨wheres, hwheres, rfl⟩ := Join.sql_eq_ok.mp hsql
  rw [Sql.joined_eq]
  have hcontinued := aligned_continued h.wheres wheres hwheres
  refine Aligned.after ?_ (by simpa [Ledger.ofJoin, Ledger.calls] using hcontinued)
  cases j.kind <;> simp [JoinKind.words]

theorem sub (h : Written q l) (logic : Logic) (column operator : String) :
    (Predicate.sub logic column operator q).Carries l.calls := by
  intro sql hsql
  obtain ⟨select, hselect, rfl⟩ := Predicate.sub_body_eq_ok.mp hsql
  refine Aligned.before (by simp) ?_
  refine Aligned.after (Sql.slots_column column) ?_
  exact Aligned.after (s := [.word " ", .operator operator, .word " ("]) (by simp)
    (h.select hselect)

theorem addWhere (h : Written q l) {p : Predicate} {values : List Value}
    (hp : p.Carries [⟨p, values⟩]) : Written (q.addWhere p) (l.add p values) where
  joins := h.joins
  wheres := List.rel_append h.wheres (.cons hp .nil)

theorem addSub (h : Written q l) {sub : Query} {m : Ledger} (hsub : Written sub m)
    (logic : Logic) (column operator : String) :
    Written (q.addWhere (.sub logic column operator sub)) (l.addSub m) where
  joins := h.joins
  wheres := List.rel_append h.wheres (.cons (hsub.sub logic column operator) .nil)

theorem addJoin (h : Written q l) {j : Join} {m : Ledger} (hjoin : Written j.query m)
    (hc : j.conditions.isEmpty = false) : Written (q.addJoin j) (l.addJoin m) := by
  obtain ⟨-, hjoins, hwheres⟩ := Query.addJoin_of_not_isEmpty (q := q) hc
  exact {
    joins := hjoins ▸ List.rel_append h.joins (.cons hjoin.join .nil)
    wheres := hwheres ▸ h.wheres }

/-- Every call writes what the ledger records. -/
theorem keeps (d : Dialect) : Keeps d Written Written fun j m => Written j.query m where
  empty := empty d
  congr h _ hjoins hwheres := h.congr hjoins hwheres
  add {q _ _ values _} h hadds := by
    have hbound : Written (q.bind values) _ := h.congr rfl rfl
    exact hbound.addWhere hadds.carries
  addSub logic column operator h hsub hf := by
    simp only [Query.compareSub, hf]
    exact (h.addSub hsub logic column (Query.givenOperator operator)).congr rfl rfl
  addJoin h hjoin hc := h.addJoin hjoin hc

theorem run (d : Dialect) (steps : List Step) :
    Written (Query.run (.empty d) steps) (Ledger.run d {} steps) :=
  (keeps d).run (empty d) rfl steps

theorem runJoin (d : Dialect) (kind : JoinKind) (table : String) (steps : List JoinStep) :
    Written (Join.run (Join.start d kind table) steps).query (Ledger.runJoin d {} steps) :=
  (keeps d).runJoin (empty d) rfl steps

end Written

end SqlMapping
