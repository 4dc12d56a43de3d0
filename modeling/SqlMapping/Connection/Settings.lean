import SqlMapping.Entries
import SqlMapping.Naming
import SqlMapping.Text.Truth

/-!
# Settings

How the sessions of a connection behave, read from named options.
-/

namespace SqlMapping

/-- How sessions behave. -/
structure Settings where
  naming : Naming := .snake
  /-- Every statement is kept in the connection's log. -/
  queryLog : Bool := false
  /-- Prepared statements are kept in the connection's cache. -/
  sharedCache : Bool := true
  deriving DecidableEq

namespace Settings

def flag (option value : String) : Result Bool :=
  match Text.truth? value with
  | some b => .ok b
  | none => .fail (.optionNotBoolean option value)

/-- Settings with one option read; an option of any other name changes nothing. -/
def read (s : Settings) (option value : String) : Result Settings :=
  match option with
  | "naming" => (Naming.parse value).map fun naming => { s with naming }
  | "query_log" => (flag option value).map fun queryLog => { s with queryLog }
  | "shared_cache" => (flag option value).map fun sharedCache => { s with sharedCache }
  | _ => .ok s

/-- Settings with options read in turn. -/
def readAll (s : Settings) : List (String × String) → Result Settings
  | [] => .ok s
  | (option, value) :: options =>
    match s.read option value with
    | .ok s => s.readAll options
    | .error e => .error e

def ofOptions (options : List (String × String)) : Result Settings :=
  ({} : Settings).readAll options

end Settings

end SqlMapping
