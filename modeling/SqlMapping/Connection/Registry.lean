import SqlMapping.Connection.Basic

/-!
# Registries

Endpoints by name, in the order in which the names were first given.
-/

namespace SqlMapping

abbrev Registry := List (String × Endpoint)

namespace Registry

/-- The name that the empty one stands for. -/
def defaultName : String := "default"

def resolve (name : String) : String :=
  if name.isEmpty then defaultName else name

/-- Registers an endpoint; one of the same name gives way, its place stays. -/
def add (r : Registry) (name : String) (e : Endpoint) : Registry :=
  Entries.put (resolve name) e r

/-- The registry of some endpoints, their names as they are. -/
def ofList (es : List (String × Endpoint)) : Registry :=
  Entries.inOrder es

def remove (r : Registry) (name : String) : Registry :=
  Entries.remove (resolve name) r

def get? (r : Registry) (name : String) : Option Endpoint :=
  Entries.find? (resolve name) r

def names (r : Registry) : List String :=
  r.map (·.1)

/-- Connects to the endpoint of a name, under that name. -/
def connect {σ : Type} (d : Driver σ) (r : Registry) (name : String) : Result (Connection × σ) :=
  match r.get? name with
  | none => .fail (.connectionNotFound (resolve name))
  | some e => (Connection.connect d e).map fun (c, s) => ({ c with name := resolve name }, s)

end Registry

end SqlMapping
