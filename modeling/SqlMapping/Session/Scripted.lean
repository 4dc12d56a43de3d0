import SqlMapping.Session.Backend

/-!
# Scripted backends

A backend whose answers are laid down beforehand and which remembers what it was asked. Its clock
moves only when it is told to and while a request waits.
-/

namespace SqlMapping

/-- The requests that a script can let fail; `next` is the end of a query's rows. -/
inductive Failable where
  | prepare
  | query
  | exec
  | next
  | begin
  | commit
  | rollback
  | close
  | closeStatement
  deriving DecidableEq

/-- The name of a request that can fail. -/
def Failable.name : Failable → String
  | prepare => "prepare"
  | query => "query"
  | exec => "exec"
  | next => "next"
  | begin => "begin"
  | commit => "commit"
  | rollback => "rollback"
  | close => "close"
  | closeStatement => "close_statement"

def Failable.all : List Failable :=
  [prepare, query, exec, next, begin, commit, rollback, close, closeStatement]

def Failable.failure (f : Failable) : Failure :=
  Cause.backend ("Mock " ++ f.name ++ " failure")

/-- What a scripted backend was asked. -/
inductive Event where
  | prepared (sql : String)
  | queried (inTransaction : Bool) (sql : String) (values : List Value)
  | executed (inTransaction : Bool) (sql : String) (values : List Value)
  | begun
  | committed
  | rolledBack
  | closedStatement (sql : String)
  | closed
  | observed (entry : QueryRecord)

/-- The state of a scripted backend. -/
structure Script where
  clock : Nat := 0
  /-- How long statements and commits wait. -/
  delay : Nat := 0
  /-- The columns and rows of the queries to come. -/
  results : List (List String × List (List Value)) := []
  failing : List Failable := []
  /-- The rows a statement changes. -/
  affected : Nat := 1
  statements : Nat := 0
  transactions : Nat := 0
  events : List Event := []

namespace Script

def note (e : Event) (s : Script) : Script :=
  { s with events := s.events ++ [e] }

/-- Lets a kind of request fail from now on, or no longer. -/
def setFailing (f : Failable) (on : Bool) (s : Script) : Script :=
  { s with failing := if on then f :: s.failing else s.failing.filter (· ≠ f) }

def advance (ms : Nat) (s : Script) : Script :=
  { s with clock := s.clock + ms }

/-- The outcome of a request, unless it fails. -/
def guarded {α : Type} (f : Failable) (outcome : Script → α × Script) (s : Script) :
    Result α × Script :=
  if f ∈ s.failing then (.error f.failure, s)
  else
    let (a, s) := outcome s
    (.ok a, s)

/-- A request with nothing to tell. -/
def plain (f : Failable) (e : Event) (s : Script) : Result Unit × Script :=
  (s.note e).guarded f fun s => ((), s)

/-- The result of the next query: the one laid down for it, else nothing. -/
def nextResult (s : Script) : Cursor × Script :=
  let ending := if .next ∈ s.failing then some Failable.next.failure else none
  match s.results with
  | [] => ({ columns := [], rows := [], ending }, s)
  | (columns, rows) :: results => ({ columns, rows, ending }, { s with results })

def changed (s : Script) : Affected :=
  { rows := s.affected, lastId := if s.affected = 0 then none else some 1 }

/-- The answer to a request, at once. -/
def answerNow : (r : Request) → Script → Result r.Reply × Script
  | .prepare sql, s =>
    (s.note (.prepared sql)).guarded .prepare fun s =>
      ({ number := s.statements, sql }, { s with statements := s.statements + 1 })
  | .query via p values, s =>
    (s.note (.queried via.isSome p.sql values)).guarded .query nextResult
  | .exec via p values, s =>
    (s.note (.executed via.isSome p.sql values)).guarded .exec fun s => (s.changed, s)
  | .begin, s =>
    (s.note .begun).guarded .begin fun s =>
      ({ number := s.transactions }, { s with transactions := s.transactions + 1 })
  | .commit _, s => s.plain .commit .committed
  | .rollback _, s => s.plain .rollback .rolledBack
  | .closeStatement p, s => s.plain .closeStatement (.closedStatement p.sql)
  | .close, s => s.plain .close .closed

/-- How long a request waits before it is answered. -/
def wait (s : Script) : Request → Nat
  | .query .. | .exec .. | .commit _ => s.delay
  | _ => 0

/-- The scripted backend. A request that would be answered after its deadline is never seen. -/
def backend : Backend Script where
  now s := (s.clock, s)
  answer r s := answerNow r (s.advance (s.wait r))
  answerBy deadline r s :=
    if s.clock + s.wait r ≤ deadline then
      let (reply, s) := answerNow r (s.advance (s.wait r))
      (some reply, s)
    else (none, { s with clock := deadline })
  observe entry s := s.note (.observed entry)

end Script

end SqlMapping
