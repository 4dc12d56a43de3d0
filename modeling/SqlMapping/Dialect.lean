import SqlMapping.Failure

/-!
# Dialects

What differs between databases: the quote around identifiers and the operators of comparisons.
-/

namespace SqlMapping

/-- A database dialect. -/
inductive Dialect where
  /-- Identifiers between double quotes. -/
  | generic
  /-- Identifiers between backticks. -/
  | mysql
  deriving DecidableEq, Inhabited

namespace Dialect

/-- The character around an identifier. -/
def quote : Dialect → Char
  | generic => '"'
  | mysql => '\x60'

/-- The operators a comparison may use. -/
def operators : Dialect → List String
  | generic =>
    ["=", "<", ">", "<=", ">=", "<>", "!=", "like", "not like", "ilike", "not ilike",
      "similar to", "not similar to"]
  | mysql =>
    ["=", "<", ">", "<=", ">=", "<>", "!=", "<=>", "like", "like binary", "not like", "ilike",
      "&", "|", "^", "<<", ">>", "rlike", "regexp", "not regexp", "~", "~*", "!~", "!~*",
      "similar to", "not similar to", "not ilike", "~~*", "!~~*"]

/-- A text with every `search` replaced. -/
def replaced (search : Char) (replacement : List Char) (cs : List Char) : List Char :=
  cs.flatMap fun c => if c = search then replacement else [c]

/-- An identifier between quotes, a quote within it written twice. -/
def quoted (d : Dialect) (name : String) : List Char :=
  d.quote :: (replaced d.quote [d.quote, d.quote] name.toList ++ [d.quote])

/-- The operator of a comparison, `=` when none is given. -/
def operator (d : Dialect) (op : String) : Except Cause String :=
  if op.isEmpty then .ok "="
  else if d.operators.contains op then .ok op
  else .error (.invalidOperator op)

end Dialect

end SqlMapping
