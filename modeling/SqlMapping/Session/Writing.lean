import SqlMapping.Query.Write
import SqlMapping.Session.Loading

/-!
# Writing

The operations of a session that change rows, and the texts of its statements.
-/

namespace SqlMapping.Session

variable {σ : Type}

/-- Runs a compiled statement that changes rows. -/
def executeSql (b : Backend σ) (compiled : Result (Sql × List Value)) : Work σ Affected := do
  let (sql, values) ← yield compiled
  let s ← current
  execute b (s.text sql) values

def insert (b : Backend σ) (p : Payload) : Work σ Affected :=
  terminal do
    let s ← current
    executeSql b (s.query.insertSql s.naming p)

/-- Updates the rows of the query, and gives their number. -/
def update (b : Backend σ) (p : Payload) : Work σ Nat :=
  terminal do
    let s ← current
    let a ← executeSql b (s.query.updateSql s.naming p)
    return a.rows

/-- Deletes the rows of the query, and gives their number. -/
def delete (b : Backend σ) : Work σ Nat :=
  terminal do
    let s ← current
    let a ← executeSql b (s.query.deleteSql.map fun sql => (sql, s.query.binding.deleteValues))
    return a.rows

/-- The text of a statement, which ends the query in the making. -/
def textOf (compile : Session → Result Sql) : Work σ String :=
  terminal do
    let s ← current
    let sql ← yield (compile s)
    return s.text sql

def selectText : Work σ String :=
  textOf fun s => s.query.selectSql

def insertText (p : Payload) : Work σ String :=
  textOf fun s => (s.query.insertSql s.naming p).map (·.1)

def updateText (p : Payload) : Work σ String :=
  textOf fun s => (s.query.updateSql s.naming p).map (·.1)

def deleteText : Work σ String :=
  textOf fun s => s.query.deleteSql

end SqlMapping.Session
