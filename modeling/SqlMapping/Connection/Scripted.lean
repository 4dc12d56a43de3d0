import SqlMapping.Connection.Basic
import SqlMapping.Session.Scripted

/-!
# Scripted drivers

The driver of scripted backends, and connections to them.
-/

namespace SqlMapping.Script

/-- Each connection starts a script of its own; the database `refused` can not be reached. -/
def connect (e : Endpoint) : Result Script :=
  if e.database = "refused" then .fail (.backend "Mock connect failure") else .ok {}

/-- The driver of scripted backends in a dialect. -/
def driver (dialect : Dialect) : Driver Script where
  name := "mock"
  dialect := dialect
  backend := backend
  connect := connect

end SqlMapping.Script
