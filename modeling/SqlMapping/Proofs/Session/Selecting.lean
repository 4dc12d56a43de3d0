import SqlMapping.Proofs.Query.Equations
import SqlMapping.Proofs.Quoting.Listing
import SqlMapping.Proofs.Session.Referring

/-! # Selected columns

A read lists the columns that the query selects. If it selects none, these are the columns that are
asked for, and if none are, all that the object maps, or a star for records. Finding a record alone
goes by what is asked for, whatever the query selects. -/

namespace SqlMapping

variable {d : Dialect}

/-! ## Texts -/

/-- The text of a select lists the columns of its query. -/
theorem Query.listed_selectSql {q : Query} {sql : Sql} (h : q.selectSql = .ok sql) :
    d.listed (sql.render d) = d.listing q.columns := by
  obtain ⟨-, -, joins, wheres, -, -, rfl⟩ := selectSql_eq_ok.mp h
  have hchars : ∃ rest, Sql.chars d (Sql.phrase
      [Sql.selection q.distinct q.columns, Sql.source q.table, Sql.phrase joins, Sql.filter wheres,
        Sql.order q.orderColumns q.direction, Sql.page q.limit q.offset]) =
      (Sql.selection q.distinct q.columns).chars d ++ (" from ".toList ++ rest) := by
    have hselection : Sql.selection q.distinct q.columns ≠ [] := by simp [Sql.selection]
    rw [Sql.phrase, Text.joinPieces_cons hselection]
    simp [Sql.chars, Sql.source, Token.text]
  obtain ⟨rest, hrest⟩ := hchars
  rw [Sql.render, hrest, Sql.listed_selection]

theorem Sql.listed_find (distinct : Bool) (columns : List String) (t : TableRef) (key : String) :
    d.listed ((Sql.find distinct columns t key).render d) = d.listing columns := by
  have hchars : ∃ rest, (Sql.find distinct columns t key).chars d =
      (Sql.selection distinct columns).chars d ++ (" from ".toList ++ rest) := by
    simp [Sql.find, Sql.chars, Token.text]
  obtain ⟨rest, hrest⟩ := hchars
  rw [Sql.render, hrest, Sql.listed_selection]

/-! ## Choices -/

/-- The columns that a read asks for. -/
def Operation.asked? : Operation → Option (List String)
  | find _ _ columns | first _ columns | all _ columns | findRecord _ _ columns => some columns
  | firstRecord | allRecords => some []
  | _ => none

def Operation.findsRecord : Operation → Bool
  | findRecord .. => true
  | _ => false

/-- The first of some lists that is not empty. -/
def firstListed (lists : List (List String)) : List String :=
  (lists.find? (!·.isEmpty)).getD []

theorem Plan.choose_eq (selected asked mapped : List String) :
    choose selected asked mapped = firstListed [selected, asked, mapped] := by
  cases selected with
  | cons _ _ => rfl
  | nil =>
      cases asked with
      | cons _ _ => rfl
      | nil => cases mapped <;> rfl

namespace Session

/-- All columns that an object maps in a session: those of its leaves, each once. -/
def mappedColumns (s : Session) (aliases : Option (List (String × String))) (o : Object) :
    List String :=
  let (m, filled) :=
    ((Mapping.setTable { naming := s.naming, aliases } s.query.table).parseSelect o).state
  ((filled.leafColumns (m.scope .select) m.table.aliasName).map LeafColumn.text).eraseDups

/-- All columns that there are for an operation; a record has none of its own. -/
def offered (s : Session) : Operation → List String
  | .find _ o _ => s.mappedColumns none o
  | .first o _ | .all o _ => s.mappedColumns (some s.query.aliases) o
  | _ => []

/-- The columns that a read is to list: those selected before those asked for before all. -/
def due (s : Session) (o : Operation) (asked : List String) : List String :=
  firstListed [s.query.columns, asked, s.offered o]

variable {s : Session} {aliases : Option (List (String × String))} {asked : List String}
  {o : Object} {p : Plan}

theorem columns_of_plan (h : (s.planFor aliases asked o).1 = .ok p) :
    p.columns = firstListed [s.query.columns, asked, s.mappedColumns aliases o] ∧
      p.query.columns = p.columns := by
  rw [ofObject_of_planFor h] at h
  have hmapped : s.mappedColumns aliases o = p.mapping.columns := by
    have hparse := Plan.mapping_of_ofObject h
    rw [Mapping.columns_of_parse_select (Mapping.parseSelect_eq_ok.mp hparse).2, mappedColumns,
      hparse]
  rw [hmapped, ← Plan.choose_eq]
  rw [Plan.ofObject] at h
  split at h
  · cases h
  · obtain rfl := Except.ok.inj h
    have hcolumns : ∀ text, (s.query.setTable text).columns = s.query.columns := fun _ => rfl
    dsimp only
    split <;> simp [hcolumns]

theorem listed_of_firstOf {q : Query} {sql : Sql} {values : List Value}
    (h : firstOf q = .ok (sql, values)) : d.listed (sql.render d) = d.listing q.columns := by
  obtain ⟨sql, hselect, hpair⟩ := Result.bind_eq_ok.mp h
  obtain ⟨rfl, -⟩ := Prod.mk.inj (Except.ok.inj hpair)
  have hcolumns : ((q.skip 0).take 1).columns = q.columns := rfl
  rw [Query.listed_selectSql hselect, hcolumns]

variable {id : Value} {key text : String} {values : List Value}

theorem listed_of_compiled_find (h : s.compiled (.find id o asked) = some (.ok (text, values))) :
    s.query.dialect.listed text = s.query.dialect.listing (s.due (.find id o asked) asked) := by
  obtain ⟨p, hplan, hcompiled⟩ := Result.bind_eq_ok.mp (Option.some.inj h)
  obtain ⟨rfl, -⟩ := Prod.mk.inj (Except.ok.inj hcompiled)
  rw [dialect_planFor hplan, Sql.listed_find, (columns_of_plan hplan).1]
  rfl

theorem listed_of_compiled_first (h : s.compiled (.first o asked) = some (.ok (text, values))) :
    s.query.dialect.listed text = s.query.dialect.listing (s.due (.first o asked) asked) := by
  obtain ⟨p, hplan, hcompiled⟩ := Result.bind_eq_ok.mp (Option.some.inj h)
  obtain ⟨⟨sql, values'⟩, hfirst, hpair⟩ := Result.bind_eq_ok.mp hcompiled
  obtain ⟨rfl, -⟩ := Prod.mk.inj (Except.ok.inj hpair)
  obtain ⟨hcolumns, hquery⟩ := columns_of_plan hplan
  rw [dialect_planFor hplan, listed_of_firstOf hfirst, hquery, hcolumns]
  rfl

theorem listed_of_compiled_all (h : s.compiled (.all o asked) = some (.ok (text, values))) :
    s.query.dialect.listed text = s.query.dialect.listing (s.due (.all o asked) asked) := by
  obtain ⟨p, hplan, hcompiled⟩ := Result.bind_eq_ok.mp (Option.some.inj h)
  obtain ⟨sql, hselect, hpair⟩ := Result.bind_eq_ok.mp hcompiled
  obtain ⟨rfl, -⟩ := Prod.mk.inj (Except.ok.inj hpair)
  obtain ⟨hcolumns, hquery⟩ := columns_of_plan hplan
  rw [Session.text, Query.listed_selectSql hselect, hquery, hcolumns]
  rfl

theorem listed_of_compiled_findRecord
    (h : s.compiled (.findRecord id key asked) = some (.ok (text, values))) :
    s.query.dialect.listed text = s.query.dialect.listing asked := by
  obtain ⟨_, -, h⟩ := Result.bind_eq_ok.mp (Option.some.inj h)
  split at h
  · cases h
  split at h
  · cases h
  · obtain ⟨rfl, -⟩ := Prod.mk.inj (Except.ok.inj h)
    exact Sql.listed_find _ _ _ _

theorem listed_of_compiled_firstRecord
    (h : s.compiled .firstRecord = some (.ok (text, values))) :
    s.query.dialect.listed text = s.query.dialect.listing s.query.columns := by
  obtain ⟨⟨sql, values'⟩, hfirst, hpair⟩ := Result.bind_eq_ok.mp (Option.some.inj h)
  obtain ⟨rfl, -⟩ := Prod.mk.inj (Except.ok.inj hpair)
  exact listed_of_firstOf hfirst

theorem listed_of_compiled_allRecords
    (h : s.compiled .allRecords = some (.ok (text, values))) :
    s.query.dialect.listed text = s.query.dialect.listing s.query.columns := by
  obtain ⟨sql, hselect, hpair⟩ := Result.bind_eq_ok.mp (Option.some.inj h)
  obtain ⟨rfl, -⟩ := Prod.mk.inj (Except.ok.inj hpair)
  exact Query.listed_selectSql hselect

theorem firstListed_nil_right (columns : List String) :
    firstListed [columns, [], []] = columns := by
  cases columns <;> rfl

/-- An operation that reads lists the columns that are due, unless it finds a record: that lists the
columns asked for. -/
theorem listed_of_compiled {op : Operation} (hread : op.asked? = some asked)
    (h : s.compiled op = some (.ok (text, values))) :
    s.query.dialect.listed text =
      s.query.dialect.listing (if op.findsRecord then asked else s.due op asked) := by
  cases op with
  | find id o columns =>
      obtain rfl := Option.some.inj hread
      exact listed_of_compiled_find h
  | first o columns =>
      obtain rfl := Option.some.inj hread
      exact listed_of_compiled_first h
  | all o columns =>
      obtain rfl := Option.some.inj hread
      exact listed_of_compiled_all h
  | findRecord id key columns =>
      obtain rfl := Option.some.inj hread
      exact listed_of_compiled_findRecord h
  | firstRecord =>
      obtain rfl := Option.some.inj hread
      rw [listed_of_compiled_firstRecord h, ← firstListed_nil_right s.query.columns]
      rfl
  | allRecords =>
      obtain rfl := Option.some.inj hread
      rw [listed_of_compiled_allRecords h, ← firstListed_nil_right s.query.columns]
      rfl
  | _ => cases hread

/-- What is due to a record is what is asked for just if the query selects nothing, or selects what
is written in the same way. -/
theorem listing_due_findRecord (s : Session) (id : Value) (key : String) (asked : List String) :
    s.query.dialect.listing asked =
        s.query.dialect.listing (s.due (.findRecord id key asked) asked) ↔
      s.query.columns = [] ∨
        s.query.dialect.listing asked = s.query.dialect.listing s.query.columns := by
  rw [due]
  cases hcolumns : s.query.columns with
  | nil => cases asked <;> simp [firstListed, offered]
  | cons column columns => simp [firstListed]

/-- Columns are listed by one precedence, except that finding a record passes over what the query
selects. Whatever statement a read runs, the columns it lists are those selected by the query, else
those asked for, else all that the object maps, or a star if there are none. When a record is found
they are those asked for, which are the ones due just if the query selects none or the same. -/
theorem selects_due_iff {σ : Type} (b : Backend σ) (d : Desk σ) (o : Operation)
    (asked : List String) (text : String) (values : List Value) (hread : o.asked? = some asked)
    (h : d.session.compiled o = some (.ok (text, values))) :
    Runs b d (.ok (text, values)) (perform b o d).1.failure? (perform b o d).2 ∧
      d.session.query.dialect.listed text =
        d.session.query.dialect.listing
          (if o.findsRecord then asked else d.session.due o asked) ∧
      (d.session.query.dialect.listed text =
          d.session.query.dialect.listing (d.session.due o asked) ↔
        o.findsRecord = false ∨ d.session.query.columns = [] ∨
          d.session.query.dialect.listing asked =
            d.session.query.dialect.listing d.session.query.columns) := by
  have hlisted := listed_of_compiled hread h
  refine ⟨perform_runs b o d _ h, hlisted, ?_⟩
  rw [hlisted]
  cases o with
  | findRecord id key columns =>
      obtain rfl := Option.some.inj hread
      simpa [Operation.findsRecord] using listing_due_findRecord d.session id key columns
  | _ => simp [Operation.findsRecord]

/-- A session whose query selects the names of users. -/
def namingUsers : Desk Script :=
  (answering []).withQuery (Query.run (.empty .mysql) [.table "users", .select ["name"]])

/-- The text of the statement that an operation runs. -/
def textFor? (s : Session) (o : Operation) : Option String :=
  ((s.compiled o).bind Except.toOption).map Prod.fst

theorem compiled_of_textFor? {op : Operation} (h : s.textFor? op = some text) :
    ∃ values, s.compiled op = some (.ok (text, values)) := by
  obtain ⟨⟨_, values⟩, hcompiled, rfl⟩ := Option.map_eq_some_iff.mp h
  obtain ⟨r, hr, hok⟩ := Option.bind_eq_some_iff.mp hcompiled
  obtain rfl := Result.toOption_eq_some.mp hok
  exact ⟨values, hr⟩

/-- An object is loaded from the names, but of a record that is found only the ids are listed. -/
theorem selects_due_namingUsers :
    let s := namingUsers.session
    (∃ text values, s.compiled (.first (renamedUser false "") ["id"]) = some (.ok (text, values)) ∧
      s.query.dialect.listed text = ["\x60name\x60"]) ∧
    ∃ text values,
      s.compiled (.findRecord (.boolean none) "id" ["id"]) = some (.ok (text, values)) ∧
      s.query.dialect.listed text = ["\x60id\x60"] ∧
      s.query.dialect.listed text ≠
        s.query.dialect.listing (s.due (.findRecord (.boolean none) "id" ["id"]) ["id"]) := by
  intro s
  have hfirst : s.textFor? (.first (renamedUser false "") ["id"]) =
      some "select \x60name\x60 from \x60users\x60 limit 1 offset 0" := by decide +kernel
  have hfind : s.textFor? (.findRecord (.boolean none) "id" ["id"]) =
      some "select \x60id\x60 from \x60users\x60 where \x60id\x60 = ?" := by decide +kernel
  obtain ⟨_, hfirst⟩ := compiled_of_textFor? hfirst
  obtain ⟨_, hfind⟩ := compiled_of_textFor? hfind
  have hlisted := selects_due_iff Script.backend namingUsers _ ["id"] _ _ rfl hfirst
  have hrecord := selects_due_iff Script.backend namingUsers _ ["id"] _ _ rfl hfind
  refine ⟨⟨_, _, hfirst, hlisted.2.1.trans ?_⟩, _, _, hfind, hrecord.2.1.trans ?_, ?_⟩
  · decide +kernel
  · decide +kernel
  · rw [Ne, hrecord.2.2]
    decide +kernel

end Session

end SqlMapping
