import SqlMapping.Failure

/-!
# Query logs

The statements that were run, with the values bound to them, in order.
-/

namespace SqlMapping

/-- A statement that was run. -/
structure QueryRecord where
  query : String
  values : List Value

namespace QueryRecord

/-- A value in the place of its placeholder: texts between double quotes. -/
def filled (v : Value) : List Char :=
  match v with
  | .text (some s) => '"' :: (s.toList ++ ['"'])
  | v => v.display.toList

/-- A statement with its placeholders filled in turn; one without a value is dropped. -/
def fill : List Char → List Value → List Char
  | [], _ => []
  | c :: cs, values =>
    if c = '?' then
      match values with
      | v :: vs => filled v ++ fill cs vs
      | [] => fill cs []
    else c :: fill cs values

/-- The statement with its values in it; without any it stays as it is. -/
def raw (r : QueryRecord) : String :=
  if r.values.isEmpty then r.query else String.ofList (fill r.query.toList r.values)

/-- The line of a statement in a text log. -/
def line (r : QueryRecord) : String :=
  "INFO " ++ Text.abridged r.query ++ " [" ++
    ", ".intercalate (r.values.map fun v => Text.quoted v.display) ++ "]"

end QueryRecord

/-- The statements of a log, the oldest first. -/
abbrev QueryLog := List QueryRecord

namespace QueryLog

/-- The statement with a number, counted from one. -/
def get? (log : QueryLog) (number : Nat) : Option QueryRecord :=
  if number = 0 then none else log[number - 1]?

end QueryLog

end SqlMapping
