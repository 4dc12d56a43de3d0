import SqlMapping.Mapping.Basic
import SqlMapping.Query.Compile

/-!
# Written rows

The inserts and updates of objects and records.
-/

namespace SqlMapping

/-- What a statement writes. -/
inductive Payload where
  | object (o : Object)
  | objects (os : List Object)
  | record (r : Record)
  | records (rs : List Record)

/-- Rows to insert: every row has a value for each column. -/
structure Batch where
  table : String
  columns : List String
  rows : List (List Value)

namespace Batch

def ofObject (naming : Naming) (o : Object) : Result Batch := do
  let a := Mapping.parse { naming } .insert o
  a.result
  let values := a.state.insertValues
  if values.isEmpty then .fail (.columnSetEmpty "insert struct")
  else
    return { table := a.state.table.name, columns := values.map (·.1), rows := [values.map (·.2)] }

/-- A batch with the row of one more object; one that cannot be mapped adds none. -/
def addObject (naming : Naming) (b : Batch) (o : Object) : Batch :=
  match Mapping.parse { naming } .insert o with
  | ⟨m, none⟩ => { b with rows := b.rows ++ [m.valuesOf b.columns] }
  | ⟨_, some _⟩ => b

/-- The rows of the objects that can be mapped; the first of them decides table and columns. -/
def ofObjects? (naming : Naming) : List Object → Option Batch
  | [] => none
  | o :: os =>
    match ofObject naming o with
    | .ok b => some (os.foldl (addObject naming) b)
    | .error _ => ofObjects? naming os

/-- The rows of records under the keys of the first. -/
def ofRecords (table : TableRef) (rs : List Record) : Result Batch :=
  if table.isEmpty then .fail .tableMissing
  else match rs with
    | [] | [] :: _ => .fail (.columnSetEmpty "insert map")
    | first :: _ =>
      let columns := first.map (·.1)
      .ok { table := table.name, columns
            rows := rs.map fun r => columns.map fun c => (Entries.find? c r).getD .null }

def ofPayload (naming : Naming) (table : TableRef) : Payload → Result Batch
  | .object o => ofObject naming o
  | .objects [] => .fail .objectNil
  | .objects os =>
    match ofObjects? naming os with
    | some b => .ok b
    | none => .fail (.columnSetEmpty "insert struct batch")
  | .record r => ofRecords table [r]
  | .records rs => ofRecords table rs

def group (width : Nat) : Sql :=
  .word "(" :: Sql.placeholders width ++ [.word ")"]

/-- The insert of a batch into a table. -/
def sql (b : Batch) (table : String) : Sql :=
  .word "insert into " :: Sql.table table ++ .word " (" :: Sql.columns b.columns ++
    .word ") values " ::
      Text.joinPieces [.word ","] (List.replicate b.rows.length (group b.columns.length))

end Batch

/-- What an update sets, and in which table. -/
structure Assignments where
  table : TableRef
  values : List (String × Value)

namespace Assignments

def ofPayload (naming : Naming) (q : Query) : Payload → Result Assignments
  | .object o => do
    let a := (Mapping.setTable { naming, aliases := some q.aliases } q.table).parse .update o
    a.result
    let values := a.state.updateValues
    if values.isEmpty then .fail (.columnSetEmpty "update struct")
    else return { table := a.state.table, values }
  | .record r =>
    if q.table.isEmpty then .fail .tableMissing
    else if r.isEmpty then .fail (.columnSetEmpty "update map")
    else .ok { table := q.table, values := r }
  | .objects _ | .records _ =>
    .fail (.unsupportedValueShape "update accepts a single struct or a single map")

def sql (a : Assignments) : Sql :=
  .word " set " ::
    Text.joinPieces [.word ","] (a.values.map fun (c, _) => Sql.column c ++ [.word " = ", .mark])

end Assignments

namespace Query

/-- The insert of a payload with its values. The query's table comes before that of the
payload. -/
def insertSql (q : Query) (naming : Naming) (p : Payload) : Result (Sql × List Value) := do
  q.check
  let b ← Batch.ofPayload naming q.table p
  let table := if q.table.isEmpty then b.table else q.table.name
  if table.isEmpty then .fail .tableMissing
  else return (b.sql table, b.rows.flatten)

/-- The update of a payload with its values: those of the joins, those it sets, and those of the
clauses after. -/
def updateSql (q : Query) (naming : Naming) (p : Payload) : Result (Sql × List Value) := do
  q.check
  let a ← Assignments.ofPayload naming q p
  if a.table.isEmpty then .fail .tableMissing
  else
    let joins ← q.joinsText
    let wheres ← q.filterSql
    let sql := .word "update " :: Sql.tableRef a.table ++
      (if joins.isEmpty then [] else .word " " :: joins) ++ a.sql ++
      if wheres.isEmpty then [] else .word " " :: wheres
    return (sql, q.binding.clauseValues .join ++ q.binding.updateValues (a.values.map (·.2)))

end Query

end SqlMapping
