import SqlMapping.Session.Backend
import SqlMapping.Text.Checksum

/-!
# Statement caches

Prepared statements by the checksum of their text.
-/

namespace SqlMapping

/-- Prepared statements, each under the checksum of the text it was asked for by. -/
abbrev StatementCache := List (UInt32 × Prepared)

namespace StatementCache

def find? (key : UInt32) : StatementCache → Option Prepared
  | [] => none
  | (k, s) :: es => if k = key then some s else find? key es

def put (key : UInt32) (statement : Prepared) : StatementCache → StatementCache
  | [] => [(key, statement)]
  | (k, s) :: es => if k = key then (k, statement) :: es else (k, s) :: put key statement es

def get? (c : StatementCache) (sql : String) : Option Prepared :=
  c.find? (Text.checksum sql)

/-- Stores the statement for a text; the last one stored stays. -/
def insert (c : StatementCache) (sql : String) (statement : Prepared) : StatementCache :=
  c.put (Text.checksum sql) statement

/-- Whether there is a statement for a text. -/
def contains (c : StatementCache) (sql : String) : Bool :=
  (c.get? sql).isSome

def statements (c : StatementCache) : List Prepared :=
  c.map (·.2)

/-- Closes statements one by one, whatever fails, and gives the first failure. -/
def closeAll {σ : Type} (b : Backend σ) : List Prepared → σ → Result Unit × σ
  | [], s => (.ok (), s)
  | p :: ps, s =>
    let (first, s) := b.answer (.closeStatement p) s
    let (rest, s) := closeAll b ps s
    match first with
    | .error e => (.error e, s)
    | .ok _ => (rest, s)

end StatementCache

end SqlMapping
