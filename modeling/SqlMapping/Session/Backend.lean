import SqlMapping.QueryLog

/-!
# Backends

The database behind a session, as the requests it answers. It owns the clock, and decides how long
an answer takes; a request with a deadline may go without an answer.
-/

namespace SqlMapping

/-- A prepared statement, under the number the backend gave it. -/
structure Prepared where
  number : Nat
  sql : String
  deriving DecidableEq

/-- A transaction begun, under the number the backend gave it. -/
structure Transaction where
  number : Nat
  deriving DecidableEq

/-- The rows of a query, and the failure that ends them if they do not simply end. -/
structure Cursor where
  columns : List String
  rows : List (List Value)
  ending : Option Failure := none

def Cursor.next (c : Cursor) : Result (Option (List Value)) :=
  match c.rows, c.ending with
  | row :: _, _ => .ok (some row)
  | [], some e => .error e
  | [], none => .ok none

/-- What a statement changed. -/
structure Affected where
  rows : Nat
  lastId : Option Int
  deriving DecidableEq

/-- What a session asks of a backend. A statement runs through a transaction or, without one, by
itself. -/
inductive Request where
  | prepare (sql : String)
  | query (via : Option Transaction) (statement : Prepared) (values : List Value)
  | exec (via : Option Transaction) (statement : Prepared) (values : List Value)
  | begin
  | commit (transaction : Transaction)
  | rollback (transaction : Transaction)
  | closeStatement (statement : Prepared)
  | close

/-- What a request is answered with. -/
def Request.Reply : Request → Type
  | prepare _ => Prepared
  | query .. => Cursor
  | exec .. => Affected
  | begin => Transaction
  | commit _ | rollback _ | closeStatement _ | close => Unit

/-- A backend with states in `σ`. -/
structure Backend (σ : Type) where
  /-- A reading of the clock, in milliseconds. -/
  now : σ → Nat × σ
  /-- The answer to a request, however long it takes. -/
  answer : (r : Request) → σ → Result r.Reply × σ
  /-- The answer to a request, none when the instant passes before it. -/
  answerBy : Nat → (r : Request) → σ → Option (Result r.Reply) × σ
  /-- Shows a statement that is about to run. -/
  observe : QueryRecord → σ → σ

end SqlMapping
