import SqlMapping.Mapping.Scan
import SqlMapping.Query.Compile
import SqlMapping.Session.Basic

/-!
# Loading

The operations of a session that read rows: into an object, into fresh objects, or as records.
Loading an object fills its absent members first, so that each column has a member to go to.
-/

namespace SqlMapping

/-- A select planned for an object: its mapping, the query completed from it, and the columns to
read. -/
structure Plan where
  mapping : Mapping
  query : Query
  columns : List String

namespace Plan

/-- The columns to read: those of the query, else those asked for, else all that are mapped. -/
def choose (selected requested mapped : List String) : List String :=
  if !selected.isEmpty then selected else if !requested.isEmpty then requested else mapped

/-- A select planned for an object, and the object with its members filled. The query takes the
object's table if it has none. -/
def ofObject (naming : Naming) (aliases : Option (List (String × String))) (q : Query)
    (requested : List String) (o : Object) : Result Plan × Object :=
  match (Mapping.setTable { naming, aliases } q.table).parseSelect o with
  | ⟨(_, o), some e⟩ => (.error e, o)
  | ⟨(m, o), none⟩ =>
    let q := if q.table.isEmpty then q.setTable m.table.display else q
    let columns := choose q.columns requested m.columns
    (.ok { mapping := m, query := { q with columns }, columns }, o)

def assignRow (m : Mapping) (columns : List String) (row : List Value) (o : Object) :
    Mapping × Attempt Object :=
  let m := m.scan (m.places columns) row
  (m, m.assign o)

/-- Assigns the first row of a cursor to an object, and tells whether there is one. -/
def loadFirst (p : Plan) (c : Cursor) (o : Object) : Result Bool × Object :=
  match c.next with
  | .error e => (.error e, o)
  | .ok none => (.ok false, o)
  | .ok (some row) =>
    let (_, a) := assignRow p.mapping p.columns row o
    (a.result.map fun _ => true, a.state)

/-- Assigns each row to a fresh object; the buffers go on from row to row. -/
def loadRows (fresh : Object) (columns : List String) (ending : Option Failure) :
    Mapping → List (List Value) → Result (List Object)
  | _, [] =>
    match ending with
    | some e => .error e
    | none => .ok []
  | m, row :: rows => do
    let filled := fresh.allocate
    filled.result
    let (m, a) := assignRow m columns row filled.state
    a.result
    let rest ← loadRows fresh columns ending m rows
    return a.state :: rest

end Plan

/-- A row as a record: bytes as text, the last of several columns of one name. -/
def recordOf (columns : List String) (row : List Value) : Record :=
  Entries.ofList (columns.zip (row.map Value.intoText))

/-- The first row of a cursor as a record, if there is one. -/
def Cursor.firstRecord (c : Cursor) : Result (Option Record) :=
  c.next.map fun row => row.map (recordOf c.columns)

/-- The rows of a cursor as records. -/
def Cursor.records (c : Cursor) : Result (List Record) :=
  match c.ending with
  | some e => .error e
  | none => .ok (c.rows.map (recordOf c.columns))

namespace Session

variable {σ : Type}

def setQuery (q : Query) : Work σ Unit :=
  change fun s => { s with query := q }

/-- The text of a statement in the session's dialect. -/
def text (s : Session) (sql : Sql) : String :=
  sql.render s.query.dialect

/-- Loads the first row of a planned statement into an object, and gives the object back even if
that fails. -/
def load (b : Backend σ) (plan : Result Plan × Object)
    (statement : Plan → Result (Sql × List Value)) :
    StateM (Desk σ) (Result Bool × Object) := do
  let (planned, o) := plan
  let fetched ← ExceptT.run (m := StateM (Desk σ)) do
    let p : Plan ← yield planned
    setQuery p.query
    let (sql, values) ← yield (statement p)
    let s ← current
    let c ← runQuery b (s.text sql) values
    return (p, c)
  match fetched with
  | .error e => return (.error e, o)
  | .ok (p, c) => return p.loadFirst c o

/-- Work on an object that ends the query in the making. -/
def terminalOn {α : Type} (w : StateM (Desk σ) α) : StateM (Desk σ) α := do
  let r ← w
  modify fun d =>
    { d with session := { d.session with query := .empty d.session.query.dialect } }
  return r

/-- A plan for an object, unless the query has failed. -/
def planFor (s : Session) (aliases : Option (List (String × String))) (requested : List String)
    (o : Object) : Result Plan × Object :=
  match s.query.check with
  | .error e => (.error e, o)
  | .ok _ => Plan.ofObject s.naming aliases s.query requested o

/-- Loads the row with a key into an object. -/
def find (b : Backend σ) (id : Value) (o : Object) (requested : List String) :
    StateM (Desk σ) (Result Bool × Object) :=
  terminalOn do
    let s := (← get).session
    load b (s.planFor none requested o) fun p =>
      .ok (Sql.find p.query.distinct p.columns p.mapping.table p.mapping.qualifiedKey, [id])

/-- A select of one row at the most. -/
def firstOf (q : Query) : Result (Sql × List Value) := do
  let q := (q.skip 0).take 1
  return (← q.selectSql, q.values)

/-- Loads the first row of the query into an object. -/
def first (b : Backend σ) (o : Object) (requested : List String) :
    StateM (Desk σ) (Result Bool × Object) :=
  terminalOn do
    let s := (← get).session
    load b (s.planFor (some s.query.aliases) requested o) fun p => firstOf p.query

/-- Loads each row of the query into an object like `fresh`. -/
def all (b : Backend σ) (fresh : Object) (requested : List String) : Work σ (List Object) :=
  terminal do
    let s ← current
    let p : Plan ← yield (s.planFor (some s.query.aliases) requested fresh).1
    let sql ← yield p.query.selectSql
    let c ← runQuery b (s.text sql) p.query.values
    yield (Plan.loadRows fresh p.columns c.ending p.mapping c.rows)

/-- The row with a key of the query's table as a record. -/
def findRecord (b : Backend σ) (id : Value) (primaryKey : String) (requested : List String) :
    Work σ (Option Record) :=
  terminal do
    let s ← current
    yield s.query.check
    if s.query.table.isEmpty then yield (Result.fail .tableMissing)
    else if primaryKey.isEmpty then yield (Result.fail .emptyPrimaryKey)
    else
      let sql := Sql.find s.query.distinct requested s.query.table primaryKey
      let c ← runQuery b (s.text sql) [id]
      yield c.firstRecord

/-- The first row of the query as a record. -/
def firstRecord (b : Backend σ) : Work σ (Option Record) :=
  terminal do
    let s ← current
    let (sql, values) ← yield (firstOf s.query)
    let c ← runQuery b (s.text sql) values
    yield c.firstRecord

/-- The rows of the query as records. -/
def allRecords (b : Backend σ) : Work σ (List Record) :=
  terminal do
    let s ← current
    let sql ← yield s.query.selectSql
    let c ← runQuery b (s.text sql) s.query.values
    yield c.records

end Session

end SqlMapping
