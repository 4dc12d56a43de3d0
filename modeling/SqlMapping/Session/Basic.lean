import SqlMapping.Naming
import SqlMapping.Query.Step
import SqlMapping.Session.Cache

/-!
# Sessions

A session holds a query in the making, the statements it prepared and at most one transaction.
What the sessions of a connection share is the backend, a statement cache and a query log.
-/

namespace SqlMapping

/-- Where the statements of a session are recorded. -/
inductive Sink where
  /-- In the query log of the connection. -/
  | queryLog
  /-- By the backend. -/
  | observer
  deriving DecidableEq

/-- A transaction with the instant it has to be over by. -/
structure ActiveTransaction where
  transaction : Transaction
  deadline : Option Nat
  deriving DecidableEq

/-- A unit of work on a connection. -/
structure Session where
  naming : Naming
  /-- Statements are kept in the cache of the connection. -/
  sharesCache : Bool
  sink : Option Sink
  cache : StatementCache := []
  query : Query
  active : Option ActiveTransaction := none

/-- What the sessions of a connection share. -/
structure Link (σ : Type) where
  backend : σ
  cache : StatementCache := []
  log : QueryLog := []

/-- A session with what it shares. -/
structure Desk (σ : Type) where
  session : Session
  link : Link σ

/-- Work of a session. What a failed part of it did stays done. -/
abbrev Work (σ : Type) := ExceptT Failure (StateM (Desk σ))

namespace Session

variable {σ : Type}

/-- Work with a result that is already known. -/
def yield {α : Type} (r : Result α) : Work σ α :=
  fun d => (r, d)

/-- Work within an activity that its failures name. -/
def during {α : Type} (a : Activity) (w : Work σ α) : Work σ α :=
  fun d =>
    let (r, d) := w d
    (Result.within a r, d)

/-- Work on the state of the backend. -/
def onBackend {α : Type} (f : σ → Result α × σ) : Work σ α :=
  fun d =>
    let (r, s) := f d.link.backend
    (r, { d with link := { d.link with backend := s } })

def clock (b : Backend σ) : Work σ Nat :=
  onBackend fun s =>
    let (t, s) := b.now s
    (.ok t, s)

/-- Sends a request and waits for its answer. -/
def send (b : Backend σ) (r : Request) : Work σ r.Reply :=
  onBackend (b.answer r)

/-- Sends a request that has to be answered by an instant. -/
def sendBy (b : Backend σ) (deadline : Nat) (r : Request) : Work σ r.Reply :=
  onBackend fun s =>
    match b.answerBy deadline r s with
    | (some reply, s) => (reply, s)
    | (none, s) => (Result.fail .deadlineExceeded, s)

/-- Sends a request before a deadline if there is one; once it is reached nothing is sent. -/
def sendWithin (b : Backend σ) (deadline : Option Nat) (r : Request) : Work σ r.Reply := do
  match deadline with
  | none => send b r
  | some deadline =>
    let t ← clock b
    if deadline ≤ t then yield (Result.fail .deadlineExceeded) else sendBy b deadline r

def change (f : Session → Session) : Work σ Unit :=
  fun d => (.ok (), { d with session := f d.session })

def current : Work σ Session :=
  fun d => (.ok d.session, d)

/-- Records a statement that is about to run. -/
def record (b : Backend σ) (sql : String) (values : List Value) : Work σ Unit :=
  fun d =>
    let entry : QueryRecord := { query := sql, values }
    match d.session.sink with
    | none => (.ok (), d)
    | some .queryLog => (.ok (), { d with link := { d.link with log := d.link.log ++ [entry] } })
    | some .observer =>
      (.ok (), { d with link := { d.link with backend := b.observe entry d.link.backend } })

/-- The statement for a text in the caches of a session: the shared one first. -/
def cached? (d : Desk σ) (sql : String) : Option Prepared :=
  match if d.session.sharesCache then d.link.cache.get? sql else none with
  | some s => some s
  | none => d.session.cache.get? sql

/-- Stores a statement in the cache a session keeps its statements in. -/
def keep (sql : String) (statement : Prepared) (d : Desk σ) : Desk σ :=
  if d.session.sharesCache then
    { d with link := { d.link with cache := d.link.cache.insert sql statement } }
  else { d with session := { d.session with cache := d.session.cache.insert sql statement } }

/-- The prepared statement for a text, from a cache or else from the backend. -/
def prepare (b : Backend σ) (sql : String) : Work σ Prepared := do
  let found ← fun d => (.ok (cached? d sql), d)
  match found with
  | some statement => return statement
  | none =>
    let statement : Prepared ← send b (.prepare sql)
    fun d => (.ok (), keep sql statement d)
    return statement

/-- The transaction a statement runs through, and its deadline. -/
def route : Work σ (Option Transaction × Option Nat) :=
  fun d =>
    match d.session.active with
    | some a => (.ok (some a.transaction, a.deadline), d)
    | none => (.ok (none, none), d)

def runQuery (b : Backend σ) (sql : String) (values : List Value) : Work σ Cursor := do
  record b sql values
  during (.querying sql) do
    let statement ← prepare b sql
    let (via, deadline) ← route
    sendWithin b deadline (.query via statement values)

def execute (b : Backend σ) (sql : String) (values : List Value) : Work σ Affected := do
  record b sql values
  during (.executing sql) do
    let statement ← prepare b sql
    let (via, deadline) ← route
    sendWithin b deadline (.exec via statement values)

/-- Begins a transaction, which may have to be over within a time. -/
def begin (b : Backend σ) (timeout : Option Nat) : Work σ Unit := do
  let s ← current
  if s.active.isSome then yield (Result.fail .transactionConflict)
  else
    let transaction : Transaction ← during .beginning (send b .begin)
    let deadline ← match timeout with
      | none => pure none
      | some ms => (some <| · + ms) <$> clock b
    change fun s => { s with active := some { transaction, deadline } }

/-- Takes the transaction out of the session. -/
def takeActive : Work σ ActiveTransaction :=
  fun d =>
    match d.session.active with
    | none => (Result.fail .noTransaction, d)
    | some a => (.ok a, { d with session := { d.session with active := none } })

def expired (b : Backend σ) (deadline : Option Nat) : Work σ Bool := do
  match deadline with
  | none => return false
  | some deadline =>
    let t ← clock b
    return deadline ≤ t

/-- Commits the transaction; one that is over its time is rolled back instead. -/
def commit (b : Backend σ) : Work σ Unit := do
  let a ← takeActive
  if ← expired b a.deadline then
    fun d =>
      let (_, d) := (send b (.rollback a.transaction)) d
      (Result.fail .deadlineExceeded, d)
  else during .committing (sendWithin b a.deadline (.commit a.transaction))

/-- Rolls the transaction back. -/
def rollback (b : Backend σ) : Work σ Unit := do
  let a ← takeActive
  during .rollingBack (send b (.rollback a.transaction))

/-- Closes the statements of the session's own cache. -/
def closeCache (b : Backend σ) : Work σ Unit :=
  fun d =>
    let (r, s) := StatementCache.closeAll b d.session.cache.statements d.link.backend
    (r, { session := { d.session with cache := [] }, link := { d.link with backend := s } })

/-- Rolls back an open transaction and closes the session's statements. -/
def close (b : Backend σ) : Work σ Unit := do
  let s ← current
  if s.active.isSome then rollback b
  closeCache b

/-- Runs work that ends the query in the making, whatever comes of it. -/
def terminal {α : Type} (w : Work σ α) : Work σ α :=
  fun d =>
    let (r, d) := w d
    (r, { d with session := { d.session with query := .empty d.session.query.dialect } })

end Session

end SqlMapping
