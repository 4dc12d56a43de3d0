import SqlMapping.Connection.Basic

/-!
# Hubs

A connection together with the sessions opened on it, so that runs that interleave several
sessions can be spoken of.
-/

namespace SqlMapping

/-- A connection, what its sessions share, and the sessions in the order they were opened. -/
structure Hub (σ : Type) where
  connection : Connection
  link : Link σ
  sessions : List Session := []

namespace Hub

variable {σ : Type}

/-- Adds a session and gives its number. -/
def add (s : Session) : StateM (Hub σ) Nat :=
  fun h => (h.sessions.length, { h with sessions := h.sessions ++ [s] })

/-- Work of the connection on what is shared. -/
def onLink {α : Type} (f : Connection → StateM (Link σ) α) : StateM (Hub σ) α :=
  fun h =>
    let (r, link) := f h.connection h.link
    (r, { h with link })

def openSession : StateM (Hub σ) Nat := do
  add (← get).connection.session

def openOn (table : String) : StateM (Hub σ) Nat := do
  add ((← get).connection.sessionOn table)

/-- Opens a session with a transaction; none is opened when that fails. -/
def openBegun (b : Backend σ) (timeout : Option Nat) : StateM (Hub σ) (Result Nat) := do
  match ← onLink fun c => c.begin b timeout with
  | .ok s => .ok <$> add s
  | .error e => return .error e

/-- An operation of the session with a number; nothing when there is none. -/
def perform (b : Backend σ) (number : Nat) (o : Operation) : StateM (Hub σ) Outcome :=
  fun h =>
    match h.sessions[number]? with
    | none => (.nothing, h)
    | some s =>
      let (r, d) := Session.perform b o ⟨s, h.link⟩
      (r, { h with sessions := h.sessions.set number d.session, link := d.link })

end Hub

end SqlMapping
