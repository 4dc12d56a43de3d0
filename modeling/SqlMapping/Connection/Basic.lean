import SqlMapping.Connection.Endpoint
import SqlMapping.Session.Operation

/-!
# Connections

A connection opens sessions that share its backend, its cache and its log.
-/

namespace SqlMapping

/-- A kind of database: its name in urls, its dialect and how to reach it. -/
structure Driver (σ : Type) where
  name : String
  dialect : Dialect
  backend : Backend σ
  connect : Endpoint → Result σ

/-- What a connection gives to its sessions. -/
structure Connection where
  name : String := "default"
  settings : Settings
  dialect : Dialect
  naming : Naming
  sink : Option Sink

namespace Connection

variable {σ : Type}

def ofSettings (settings : Settings) (dialect : Dialect) : Connection where
  settings := settings
  dialect := dialect
  naming := settings.naming
  sink := if settings.queryLog then some .queryLog else none

/-- Connects to an endpoint; the driver is asked last. -/
def connect (d : Driver σ) (e : Endpoint) : Result (Connection × σ) :=
  Result.within (.connecting e.driver e.host e.port e.database) do
    if e.driver ≠ d.name then throw ↑(Cause.driverMismatch e.driver d.name)
    let settings ← e.settings
    let backend ← d.connect e
    return (ofSettings settings d.dialect, backend)

def session (c : Connection) : Session where
  naming := c.naming
  sharesCache := c.settings.sharedCache
  sink := c.sink
  query := .empty c.dialect

def sessionOn (c : Connection) (table : String) : Session :=
  { c.session with query := c.session.query.apply (.table table) }

/-- A new session with a transaction begun. -/
def begin (b : Backend σ) (c : Connection) (timeout : Option Nat) :
    StateM (Link σ) (Result Session) :=
  fun link =>
    let (r, d) := Session.begin b timeout ⟨c.session, link⟩
    (r.map fun _ => d.session, d.link)

/-- Runs a statement in a session of its own; a failure to close it goes before all else. -/
def exec (b : Backend σ) (c : Connection) (sql : String) (values : List Value) :
    StateM (Link σ) (Result Affected) :=
  fun link =>
    let (r, d) := Session.execute b sql values ⟨c.session, link⟩
    let (closed, d) := Session.close b d
    (closed.bind fun _ => r, d.link)

/-- Closes the cached statements and then the backend, whose failure goes first. -/
def close (b : Backend σ) (c : Connection) : StateM (Link σ) (Result Unit) :=
  fun link =>
    let (cached, s) := StatementCache.closeAll b link.cache.statements link.backend
    let (closed, s) := b.answer .close s
    let closed : Result Unit := closed
    ((Result.within (.closing c.name) closed).bind fun _ => cached,
      { link with cache := [], backend := s })

end Connection

end SqlMapping
