import SqlMapping.Binding
import SqlMapping.Dialect
import SqlMapping.Entries
import SqlMapping.TableRef

/-!
# Queries

A query describes one statement: its table, columns, joins, predicates, order and page. The
values of its predicates are collected while these are added, in the order of their placeholders.
-/

namespace SqlMapping

/-- What joins a predicate to those before it. -/
inductive Logic where
  | and
  | or
  deriving DecidableEq, Inhabited

def Logic.word : Logic → String
  | and => "and"
  | or => "or"

/-- The direction of an order. -/
inductive Direction where
  | asc
  | desc
  deriving DecidableEq, Inhabited

namespace Direction

def word : Direction → String
  | asc => "asc"
  | desc => "desc"

/-- Descending for `desc`, in any case of its letters and between blanks, else ascending. -/
def parse (s : String) : Direction :=
  if (Text.trim s.toList).map Char.toLower = "desc".toList then desc else asc

end Direction

/-- The rows a join keeps. -/
inductive JoinKind where
  | inner
  | left
  | right
  deriving DecidableEq, Inhabited

def JoinKind.words : JoinKind → String
  | inner => "inner join"
  | left => "left join"
  | right => "right join"

/-- A comparison of two columns, the operator taken as it is given. -/
structure JoinCondition where
  logic : Logic
  first : String
  operator : String
  second : String
  deriving DecidableEq

mutual
/-- A condition on the rows of a statement. -/
inductive Predicate where
  /-- `column operator ?` -/
  | compare (logic : Logic) (column operator : String) (value : Value)
  /-- `column in (?,?)` -/
  | among (logic : Logic) (column : String) (values : List Value) (negated : Bool)
  /-- `column between ? and ?` -/
  | between (logic : Logic) (column : String) (negated : Bool)
  /-- `column is null` -/
  | null (logic : Logic) (column : String) (negated : Bool)
  /-- `column operator (select ..)` -/
  | sub (logic : Logic) (column operator : String) (query : Query)
/-- A joined table with its conditions and a query whose predicates restrict the join. -/
structure Join where
  kind : JoinKind
  table : TableRef
  conditions : List JoinCondition
  query : Query
/-- The description of one statement. -/
structure Query where
  dialect : Dialect
  /-- The first call that could not be followed. -/
  failure : Option Cause
  distinct : Bool
  columns : List String
  table : TableRef
  joins : List Join
  /-- The aliases of the query's table and of the joined ones, by name. -/
  aliases : List (String × String)
  wheres : List Predicate
  orderColumns : List String
  direction : Direction
  limit : Option Nat
  offset : Option Nat
  binding : Binding
end

/-- What joins a predicate to those before it. -/
def Predicate.logic : Predicate → Logic
  | compare l .. | among l .. | between l .. | null l .. | sub l .. => l

def Predicate.column : Predicate → String
  | compare _ c .. | among _ c .. | between _ c .. | null _ c .. | sub _ c .. => c

namespace Query

/-- A query that describes nothing yet. -/
def empty (d : Dialect) : Query :=
  { dialect := d, failure := none, distinct := false, columns := [], table := {}, joins := []
    aliases := [], wheres := [], orderColumns := [], direction := .asc, limit := none
    offset := none, binding := .empty }

instance : Inhabited Query := ⟨empty .generic⟩

/-- The query's values in the order of its placeholders. -/
def values (q : Query) : List Value :=
  q.binding.values

/-- Remembers a failure unless there is one already. -/
def fail (q : Query) (c : Cause) : Query :=
  match q.failure with
  | some _ => q
  | none => { q with failure := some c }

/-- Records the alias of the query's table. -/
def noteAlias (q : Query) : Query :=
  { q with aliases := Entries.insert q.table.name q.table.aliasName q.aliases }

/-- Sets the table, with an alias if the text has one. -/
def setTable (q : Query) (text : String) : Query :=
  noteAlias { q with table := .parse text }

def setAlias (q : Query) (aliasName : String) : Query :=
  noteAlias { q with table := { q.table with aliasName } }

def addWhere (q : Query) (p : Predicate) : Query :=
  { q with wheres := q.wheres ++ [p] }

def bind (q : Query) (values : List Value) : Query :=
  { q with binding := q.binding.addAll .filter values }

def compare (q : Query) (logic : Logic) (column operator : String) (value : Value) : Query :=
  match q.dialect.operator operator with
  | .error c => q.fail c
  | .ok op => (q.bind [value]).addWhere (.compare logic column op value)

def among (q : Query) (logic : Logic) (column : String) (values : List Value) (negated : Bool) :
    Query :=
  (q.bind [.list values]).addWhere (.among logic column values negated)

/-- Whether a value can bound a range. -/
def isBound (v : Value) : Bool :=
  v.isBindable && !v.isNull

def between (q : Query) (logic : Logic) (column : String) (first last : Value) (negated : Bool) :
    Query :=
  if isBound first && isBound last then
    (q.bind [first, last]).addWhere (.between logic column negated)
  else q.fail .invalidBetweenValue

/-- An operator that is not checked, `=` when none is given. -/
def givenOperator (operator : String) : String :=
  if operator.isEmpty then "=" else operator

/-- Adds a comparison with the rows of another query; one that failed fails this one. -/
def compareSub (q : Query) (logic : Logic) (column operator : String) (sub : Query) : Query :=
  match sub.failure with
  | some c => q.fail c
  | none =>
    { q with
      binding := q.binding.merge .filter sub.binding
      wheres := q.wheres ++ [.sub logic column (givenOperator operator) sub] }

/-- Adds a join. Its failure becomes the query's; without a condition it is left out. -/
def addJoin (q : Query) (j : Join) : Query :=
  let q := match j.query.failure with
    | some c => q.fail c
    | none => q
  if j.conditions.isEmpty then q
  else
    { q with
      aliases := Entries.insert j.table.name j.table.aliasName q.aliases
      binding := q.binding.merge .join j.query.binding
      joins := q.joins ++ [j] }

/-- Adds columns to the order, which has one direction. -/
def orderBy (q : Query) (columns : List String) (direction : Direction) : Query :=
  { q with direction, orderColumns := q.orderColumns ++ columns }

/-- Skips rows, none for a negative number. -/
def skip (q : Query) (n : Int) : Query :=
  { q with offset := some n.toNat }

/-- Limits the rows; a negative number is no limit and changes nothing. -/
def take (q : Query) (n : Int) : Query :=
  if 0 ≤ n then { q with limit := some n.toNat } else q

end Query

namespace Join

def start (d : Dialect) (kind : JoinKind) (table : String) : Join :=
  { kind, table := .parse table, conditions := [], query := .empty d }

def on (j : Join) (logic : Logic) (first operator second : String) : Join :=
  { j with
    conditions :=
      j.conditions ++ [{ logic, first, operator := Query.givenOperator operator, second }] }

end Join

end SqlMapping
