import SqlMapping.Proofs.Query.Inserting
import SqlMapping.Proofs.Session.Compiled
import SqlMapping.Session.Scripted

/-! # Operations without a table

An operation that cannot be compiled asks the backend nothing. Neither does one that misses a table:
it fails before its statement is complete, with what failed before if something did. -/

namespace SqlMapping

open Session

/-- A table that names nothing, also when it is written out and read back. -/
def TableRef.IsAbsent (t : TableRef) : Prop :=
  t.isEmpty ∧ (TableRef.parse t.display).isEmpty

instance (t : TableRef) : Decidable t.IsAbsent :=
  inferInstanceAs (Decidable (_ ∧ _))

theorem TableRef.isAbsent_default : IsAbsent {} := by
  decide +kernel

/-- A mapping finds no table for an object: it declares none, none is named after its type, and it
has none of an extension. -/
def Mapping.FindsNone (m : Mapping) (mode : Mode) (o : Object) : Prop :=
  ∀ t, m.resolveTable mode o = .ok t → t.IsAbsent

theorem Mapping.findsNone_of_anonymous {m : Mapping} {mode : Mode} {o : Object}
    (htable : o.table = "") (hname : o.typeName = "")
    (hextension : ∀ t, o.firstExtension (m.scope mode) = .ok (some t) → t.IsAbsent) :
    m.FindsNone mode o := by
  intro t ht
  simp only [resolveTable, htable, hname] at ht
  obtain ⟨extension, hfirst, rfl⟩ := Result.map_eq_ok.mp ht
  cases extension with
  | none => exact TableRef.isAbsent_default
  | some t => exact hextension t hfirst

theorem Mapping.findsNone_of_unextended {m : Mapping} {mode : Mode} {o : Object}
    (htable : o.table = "") (hname : o.typeName = "")
    (hextension : o.firstExtension (m.scope mode) = .ok none) : m.FindsNone mode o := by
  refine findsNone_of_anonymous htable hname fun t ht => ?_
  rw [hextension] at ht
  cases ht

/-- The operations that read or write rows by the query in the making, and end it. -/
def Operation.isTerminal : Operation → Bool
  | find .. | first .. | all .. | findRecord .. | firstRecord | allRecords => true
  | insert _ | update _ | delete => true
  | _ => false

def Operation.isFind : Operation → Bool
  | find .. => true
  | _ => false

namespace Session

/-- The objects that an operation maps, and how. An object to load is filled first. -/
def mappings (s : Session) : Operation → List (Mapping × Mode × Object)
  | .find _ o _ => [({ naming := s.naming }, .select, o.allocate.state)]
  | .first o _ | .all o _ =>
    [({ naming := s.naming, aliases := some s.query.aliases }, .select, o.allocate.state)]
  | .insert (.object o) => [({ naming := s.naming }, .insert, o)]
  | .insert (.objects os) => os.map fun o => ({ naming := s.naming }, .insert, o)
  | .update (.object o) =>
    [({ naming := s.naming, aliases := some s.query.aliases }, .update, o)]
  | _ => []

/-- Neither the query nor an object that an operation maps has a table. -/
structure Tableless (s : Session) (o : Operation) : Prop where
  query : s.query.table.isEmpty
  objects : ∀ x ∈ s.mappings o, x.1.FindsNone x.2.1 x.2.2

/-- What is done with an object or a payload before a table is missed. -/
def mapped (s : Session) : Operation → Result Unit
  | .find _ o _ => (Mapping.parseSelect { naming := s.naming } o).result
  | .first o _ | .all o _ =>
    (Mapping.parseSelect { naming := s.naming, aliases := some s.query.aliases } o).result
  | .insert p => (Batch.ofPayload s.naming s.query.table p).map fun _ => ()
  | .update p => (Assignments.ofPayload s.naming s.query p).map fun _ => ()
  | _ => .ok ()

/-- The failure of an operation before a table is missed: that of the query, else that of the object
or the payload. -/
def earlier? (s : Session) (o : Operation) : Option Failure :=
  match s.query.failure with
  | some c => some c
  | none => (s.mapped o).failure?

/-- The failure of an operation without a table. -/
def refusal (s : Session) (o : Operation) : Failure :=
  (s.earlier? o).getD Cause.tableMissing

end Session

/-! ## Queries without a table -/

namespace Query

variable {q : Query}

/-- The failure of a statement that needs a table. -/
def refusal (q : Query) : Failure :=
  match q.failure with
  | some c => c
  | none => Cause.tableMissing

theorem requireTable_eq_refusal (h : q.table.isEmpty) :
    requireTable q.failure q.table = .error q.refusal := by
  unfold requireTable refusal
  cases q.failure with
  | some c => rfl
  | none => simp [h, Result.fail]

theorem selectSql_eq_refusal (h : q.table.isEmpty) : q.selectSql = .error q.refusal := by
  have hrequire := requireTable_eq_refusal h
  cases q
  rw [selectSql, hrequire]
  rfl

theorem deleteSql_eq_refusal (h : q.table.isEmpty) : q.deleteSql = .error q.refusal := by
  rw [deleteSql, requireTable_eq_refusal h]
  rfl

theorem firstOf_eq_refusal (h : q.table.isEmpty) : firstOf q = .error q.refusal := by
  have hselect : ((q.skip 0).take 1).selectSql = .error ((q.skip 0).take 1).refusal :=
    selectSql_eq_refusal h
  rw [firstOf, hselect]
  rfl

end Query

/-! ## Objects without a table -/

theorem Mapping.table_of_parse {m m' : Mapping} {mode : Mode} {o : Object}
    (hgiven : m.tableGiven = false) (h : m.parse mode o = ⟨m', none⟩) :
    m.resolveTable mode o = .ok m'.table := by
  obtain ⟨-, table, htable, _, -, rfl⟩ := parse_eq_ok.mp h
  simpa [hgiven] using htable

theorem Mapping.setTable_of_isEmpty {m : Mapping} {t : TableRef} (h : t.isEmpty) :
    m.setTable t = m := by
  rw [setTable, if_pos h]

theorem Element.isEmpty_table_of_mem {naming : Naming} {os : List Object} {e : Element}
    (hnone : ∀ o ∈ os, Mapping.FindsNone { naming } .insert o) (he : e ∈ ofObjects naming os) :
    e.table.isEmpty := by
  have hmem : e ∈ os.filterMap (ofObject? naming) := (List.dropWhile_sublist _).subset he
  obtain ⟨o, ho, hobject⟩ := List.mem_filterMap.mp hmem
  rw [ofObject?] at hobject
  split at hobject
  · rename_i m hparse
    obtain rfl := Option.some.inj hobject
    exact (hnone o ho _ (Mapping.table_of_parse rfl hparse)).1
  · cases hobject

theorem Payload.isEmpty_table_of_mem {s : Session} {p : Payload} {e : Element}
    (hnone : s.Tableless (.insert p)) (he : e ∈ p.elements s.naming) : e.table.isEmpty := by
  cases p with
  | object o =>
      refine Element.isEmpty_table_of_mem (fun o' ho => ?_) he
      rw [List.mem_singleton.mp ho]
      exact hnone.objects _ (List.mem_singleton_self _)
  | objects os =>
      exact Element.isEmpty_table_of_mem
        (fun o ho => hnone.objects _ (List.mem_map_of_mem ho)) he
  | record r =>
      rw [List.mem_singleton.mp he]
      rfl
  | records rs =>
      obtain ⟨r, -, rfl⟩ := List.mem_map.mp he
      rfl

theorem Batch.isEmpty_table_of_ofPayload {s : Session} {p : Payload} {b : Batch}
    (hnone : s.Tableless (.insert p)) (h : ofPayload s.naming s.query.table p = .ok b) :
    b.table.isEmpty := by
  have hcollects := collects_of_ofPayload h
  generalize helements : p.elements s.naming = es at hcollects
  cases hcollects with
  | rows first rest _ _ _ htable =>
      rw [htable hnone.query]
      exact Payload.isEmpty_table_of_mem hnone (helements ▸ List.mem_cons_self)

theorem Assignments.isEmpty_table_of_ofPayload {s : Session} {p : Payload} {a : Assignments}
    (hnone : s.Tableless (.update p)) (h : ofPayload s.naming s.query p = .ok a) :
    a.table.isEmpty := by
  cases p with
  | object o =>
      rw [ofPayload, Mapping.setTable_of_isEmpty hnone.query] at h
      obtain ⟨_, hparse, h⟩ := Result.bind_eq_ok.mp h
      dsimp only at h
      split at h
      · cases h
      · obtain rfl := Except.ok.inj h
        have htable := Mapping.table_of_parse rfl (Attempt.result_eq_ok.mp hparse)
        exact (hnone.objects _ (List.mem_singleton_self _) _ htable).1
  | record r =>
      rw [ofPayload, if_pos hnone.query] at h
      cases h
  | objects os => cases h
  | records rs => cases h

namespace Session

variable {s : Session} {o : Operation}

theorem earlier?_eq_some_iff {e : Failure} :
    s.earlier? o = some e ↔
      (∃ c : Cause, s.query.failure = some c ∧ ↑c = e) ∨
        s.query.failure = none ∧ s.mapped o = .error e := by
  rw [earlier?]
  cases s.query.failure with
  | some c => simp
  | none => cases s.mapped o <;> simp [Result.failure?]

theorem refusal_of_mapped (h : s.mapped o = .ok ()) : s.refusal o = s.query.refusal := by
  rw [refusal, earlier?, h, Query.refusal]
  cases s.query.failure <;> rfl

section

variable {aliases : Option (List (String × String))} {object : Object} {columns : List String}

theorem planFor_of_failure {c : Cause} (h : s.query.failure = some c) :
    (s.planFor aliases columns object).1 = .error ↑c := by
  rw [planFor, Query.check, h]
  rfl

theorem planFor_of_unmapped {e : Failure} (htable : s.query.table.isEmpty)
    (hquery : s.query.failure = none)
    (h : (Mapping.parseSelect { naming := s.naming, aliases } object).result = .error e) :
    (s.planFor aliases columns object).1 = .error e := by
  rw [planFor, Query.check, hquery]
  simp only
  rw [Plan.ofObject, Mapping.setTable_of_isEmpty htable]
  rcases hparse : Mapping.parseSelect { naming := s.naming, aliases } object with
    ⟨⟨m, filled⟩, _ | e'⟩
  · rw [hparse] at h
    cases h
  · rw [hparse] at h
    obtain rfl := Except.error.inj h
    rfl

end

/-- A plan without a table fails with its object, or has no table either. -/
theorem planFor_tableless {object : Object} {columns : List String}
    (hnone : s.Tableless (.first object columns)) :
    (s.planFor (some s.query.aliases) columns object).1 =
        .error (s.refusal (.first object columns)) ∨
      ∃ p, (s.planFor (some s.query.aliases) columns object).1 = .ok p ∧
        p.query.table.isEmpty ∧ p.query.refusal = s.refusal (.first object columns) := by
  cases hfailure : s.query.failure with
  | some c => exact .inl (by rw [planFor_of_failure hfailure, refusal, earlier?, hfailure]; rfl)
  | none =>
      rcases hparse : Mapping.parseSelect { naming := s.naming, aliases := some s.query.aliases }
        object with ⟨⟨m, filled⟩, _ | e⟩
      · obtain ⟨hfill, hmapped⟩ := Mapping.parseSelect_eq_ok.mp hparse
        have hmember := hnone.objects _ (List.mem_singleton_self _) m.table
        have htable : m.table.IsAbsent := by
          refine hmember ?_
          rw [hfill]
          exact Mapping.table_of_parse rfl hmapped
        rw [planFor, Query.check, hfailure]
        simp only
        rw [Plan.ofObject, Mapping.setTable_of_isEmpty hnone.query, hparse]
        refine .inr ⟨_, rfl, ?_, ?_⟩
        · rw [if_pos hnone.query]
          exact htable.2
        · rw [if_pos hnone.query, refusal_of_mapped (by simp [mapped, hparse, Attempt.result])]
          simp [Query.refusal, Query.setTable, Query.noteAlias, hfailure]
      · have herror : s.mapped (.first object columns) = .error e := by
          simp [mapped, hparse, Attempt.result]
        rw [planFor_of_unmapped hnone.query hfailure herror, refusal, earlier?, hfailure, herror]
        exact .inl rfl

/-- The lookup of an object fails with its query or its object. -/
theorem compiled_find {id : Value} {object : Object} {columns : List String}
    (htable : s.query.table.isEmpty) (h : (s.earlier? (.find id object columns)).isSome) :
    s.compiled (.find id object columns) =
      some (.error (s.refusal (.find id object columns))) := by
  obtain ⟨e, he⟩ := Option.isSome_iff_exists.mp h
  have hplan : (s.planFor none columns object).1 = .error e := by
    rcases earlier?_eq_some_iff.mp he with ⟨c, hfailure, rfl⟩ | ⟨hquery, hmapped⟩
    · exact planFor_of_failure hfailure
    · exact planFor_of_unmapped htable hquery hmapped
  rw [compiled, Plan.compiled, hplan, refusal, he]
  rfl

theorem compiled_first {object : Object} {columns : List String}
    (hnone : s.Tableless (.first object columns)) :
    s.compiled (.first object columns) = some (.error (s.refusal (.first object columns))) := by
  rw [compiled, Plan.compiled]
  rcases planFor_tableless hnone with hplan | ⟨p, hplan, htable, hrefusal⟩
  · rw [hplan]
    rfl
  · rw [hplan, ← hrefusal]
    simp only [bind, Except.bind, Query.firstOf_eq_refusal htable]

theorem compiled_all {fresh : Object} {columns : List String}
    (hnone : s.Tableless (.all fresh columns)) :
    s.compiled (.all fresh columns) = some (.error (s.refusal (.all fresh columns))) := by
  rw [compiled]
  rcases planFor_tableless ⟨hnone.query, hnone.objects⟩ with hplan | ⟨p, hplan, htable, hrefusal⟩
  · rw [hplan]
    rfl
  · rw [hplan]
    simp only [bind, Except.bind, Query.selectSql_eq_refusal htable, hrefusal]
    rfl

theorem compiled_insert {p : Payload} (hnone : s.Tableless (.insert p)) :
    s.compiled (.insert p) = some (.error (s.refusal (.insert p))) := by
  rw [compiled, Query.insertSql, Query.check]
  cases hfailure : s.query.failure with
  | some c => simp only [refusal, earlier?, hfailure]; rfl
  | none =>
      cases hbatch : Batch.ofPayload s.naming s.query.table p with
      | error e =>
          simp [refusal, earlier?, Result.failure?, hfailure, mapped, hbatch, worded, Except.map,
            bind, Except.bind]
      | ok b =>
          have htable := Batch.isEmpty_table_of_ofPayload hnone hbatch
          simp [refusal, earlier?, Result.failure?, hfailure, mapped, hbatch, worded, Except.map,
            bind, Except.bind, htable, hnone.query, Result.fail]

theorem compiled_update {p : Payload} (hnone : s.Tableless (.update p)) :
    s.compiled (.update p) = some (.error (s.refusal (.update p))) := by
  rw [compiled, Query.updateSql, Query.check]
  cases hfailure : s.query.failure with
  | some c => simp only [refusal, earlier?, hfailure]; rfl
  | none =>
      cases hassigned : Assignments.ofPayload s.naming s.query p with
      | error e =>
          simp [refusal, earlier?, Result.failure?, hfailure, mapped, hassigned, worded, Except.map,
            bind, Except.bind]
      | ok a =>
          have htable := Assignments.isEmpty_table_of_ofPayload hnone hassigned
          simp [refusal, earlier?, Result.failure?, hfailure, mapped, hassigned, worded, Except.map,
            bind, Except.bind, htable, Result.fail]

/-- Without a table nothing but the lookup of an object can be compiled, and this neither if its
query or its object fails. -/
theorem compiled_tableless (ho : o.isTerminal) (hfind : o.isFind → (s.earlier? o).isSome)
    (hnone : s.Tableless o) : s.compiled o = some (.error (s.refusal o)) := by
  cases o with
  | find id object columns => exact compiled_find hnone.query (hfind rfl)
  | first object columns => exact compiled_first hnone
  | all fresh columns => exact compiled_all hnone
  | findRecord id primaryKey columns =>
      rw [refusal_of_mapped rfl, compiled, Query.check, Query.refusal, if_pos hnone.query]
      cases s.query.failure <;> rfl
  | firstRecord =>
      rw [refusal_of_mapped rfl, compiled, Query.firstOf_eq_refusal hnone.query]
      rfl
  | allRecords =>
      rw [refusal_of_mapped rfl, compiled, Query.selectSql_eq_refusal hnone.query]
      rfl
  | insert p => exact compiled_insert hnone
  | update p => exact compiled_update hnone
  | delete =>
      rw [refusal_of_mapped rfl, compiled, Query.deleteSql_eq_refusal hnone.query]
      rfl
  | _ => cases ho

theorem compiled_isSome (ho : o.isTerminal) : (s.compiled o).isSome := by
  cases o with
  | step | exec | selectText | insertText | updateText | deleteText => cases ho
  | begin | commit | rollback | close => cases ho
  | _ => rfl

/-- An operation that ends the query in the making fails before anything is sent, or runs the one
statement that it compiles. Without a table it fails in that way, with what failed before if
something did; of the lookup of an object this is said only where something did. -/
theorem terminal_refusals {σ : Type} (b : Backend σ) (d : Desk σ) (o : Operation)
    (ho : o.isTerminal) :
    ∃ statement, d.session.compiled o = some statement ∧
      (∀ e, statement = .error e →
        (perform b o d).1.failure? = some e ∧ (perform b o d).2.link = d.link) ∧
      (∀ sql values, statement = .ok (sql, values) →
        ∃ q d', Ran b sql values (d.withQuery q) d' ∧ (perform b o d).2.link = d'.link) ∧
      ((o.isFind → (d.session.earlier? o).isSome) → d.session.Tableless o →
        (perform b o d).1.failure? = some (d.session.refusal o) ∧
          (perform b o d).2.link = d.link) := by
  obtain ⟨statement, hstatement⟩ := Option.isSome_iff_exists.mp (compiled_isSome ho)
  have hruns := perform_runs b o d statement hstatement
  refine ⟨statement, hstatement, ?_, ?_, ?_⟩
  · rintro e rfl
    exact hruns.of_error
  · rintro sql values rfl
    exact hruns.of_ok
  · intro hfind hnone
    obtain rfl := Option.some.inj (hstatement.symm.trans (compiled_tableless ho hfind hnone))
    exact hruns.of_error

/-- An object of no type, with an `id` only. -/
def nameless : Object :=
  { label := "", typeName := "", table := "", primaryKey := "id"
    members := [.field "id" "" (.scalar (.boolean true))] }

/-- A session that has been asked nothing, or whose query has failed. -/
def unasked (failure : Option Cause) : Session :=
  { naming := .snake, sharesCache := false, sink := none
    query := { Query.empty .mysql with failure } }

theorem tableless_nameless (failure : Option Cause) :
    (unasked failure).Tableless (.first nameless []) ∧
      (unasked failure).Tableless (.find (.boolean none) nameless []) :=
  ⟨⟨rfl, List.forall_mem_singleton.mpr (Mapping.findsNone_of_unextended rfl rfl rfl)⟩,
    rfl, List.forall_mem_singleton.mpr (Mapping.findsNone_of_unextended rfl rfl rfl)⟩

theorem terminal_refusals_nameless :
    let d : Desk Script := ⟨unasked none, { backend := {} }⟩
    let failed : Desk Script := ⟨unasked (some (.invalidOperator "~~")), { backend := {} }⟩
    let lookup := Operation.find (.boolean none) nameless []
    (perform Script.backend (.first nameless []) d).1.failure? = some Cause.tableMissing ∧
      (perform Script.backend (.first nameless []) d).2.link.backend.events = [] ∧
      (perform Script.backend lookup failed).1.failure? = some (Cause.invalidOperator "~~") ∧
      (perform Script.backend lookup failed).2.link.backend.events = [] := by
  intro d failed lookup
  obtain ⟨_, -, -, -, hfirst⟩ := terminal_refusals Script.backend d (.first nameless []) rfl
  obtain ⟨_, -, -, -, hlookup⟩ := terminal_refusals Script.backend failed lookup rfl
  obtain ⟨hmissing, hlink⟩ := hfirst nofun (tableless_nameless _).1
  obtain ⟨hfailure, hlink'⟩ := hlookup (fun _ => rfl) (tableless_nameless _).2
  rw [hmissing, hlink, hfailure, hlink']
  exact ⟨rfl, rfl, rfl, rfl⟩

/-- An object of no type, with a list. -/
def listing : Object :=
  { label := "", typeName := "", table := "", primaryKey := "id"
    members := [.unsupported "tags" "" .slice] }

/-- A query that failed reports its failure, and an object that cannot be mapped its own, rather
than the lack of a table. -/
theorem not_always_tableMissing :
    let failed := unasked (some (.invalidOperator "~~"))
    let update := Operation.update (.object listing)
    failed.Tableless .delete ∧
      (perform Script.backend .delete ⟨failed, { backend := {} }⟩).1.failure? ≠
        some Cause.tableMissing ∧
      (unasked none).Tableless update ∧
      (perform Script.backend update ⟨unasked none, { backend := {} }⟩).1.failure? ≠
        some Cause.tableMissing :=
  ⟨⟨rfl, nofun⟩, nofun,
    ⟨rfl, List.forall_mem_singleton.mpr (Mapping.findsNone_of_unextended rfl rfl rfl)⟩, nofun⟩

end Session

end SqlMapping
