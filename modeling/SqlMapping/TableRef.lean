import SqlMapping.Alias

/-!
# Tables

A table by its name and an optional alias.
-/

namespace SqlMapping

/-- A table; an empty name or alias is absent. -/
structure TableRef where
  name : String := ""
  aliasName : String := ""
  deriving DecidableEq, Inhabited

namespace TableRef

def isEmpty (t : TableRef) : Bool :=
  t.name.isEmpty

/-- The name that qualifies columns: the alias if there is one. -/
def fullName (t : TableRef) : String :=
  if t.aliasName.isEmpty then t.name else t.aliasName

def display (t : TableRef) : String :=
  if t.aliasName.isEmpty then t.name else t.name ++ " as " ++ t.aliasName

def parse (s : String) : TableRef :=
  let (name, aliasName) := Alias.split s
  { name, aliasName }

end TableRef

end SqlMapping
