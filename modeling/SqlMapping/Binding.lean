import SqlMapping.Failure

/-!
# Bound values

The values of a statement's placeholders, collected by the clause they stand in.
-/

namespace SqlMapping

/-- A clause that values are bound in. -/
inductive Bucket where
  | select
  | source
  | join
  | filter
  | having
  | order
  | union
  deriving DecidableEq

namespace Bucket

/-- The clauses in the order of a statement. -/
def all : List Bucket :=
  [select, source, join, filter, having, order, union]

def name : Bucket → String
  | select => "select"
  | source => "from"
  | join => "join"
  | filter => "where"
  | having => "having"
  | order => "order"
  | union => "union"

def parse (s : String) : Result Bucket :=
  match all.find? (·.name == s) with
  | some b => .ok b
  | none => .fail (.unknownBucket s)

end Bucket

/-- The values a bound value stands for: the items of a list that can be bound, nothing for a
record or a null. -/
def Value.bound : Value → List Value
  | .list items => items.filter Value.isBindable
  | .record _ => []
  | v => if v.isNull then [] else [v]

/-- The values bound to one statement. -/
structure Binding where
  bucket : Bucket → List Value

namespace Binding

def empty : Binding :=
  ⟨fun _ => []⟩

instance : Inhabited Binding := ⟨empty⟩

def addAll (b : Binding) (k : Bucket) (values : List Value) : Binding :=
  ⟨fun l => if l = k then b.bucket l ++ values else b.bucket l⟩

def add (b : Binding) (k : Bucket) (value : Value) : Binding :=
  b.addAll k [value]

/-- Adds a value to the clause of a word; an unknown word is passed over. -/
def addNamed (b : Binding) (word : String) (value : Value) : Binding :=
  match Bucket.parse word with
  | .ok k => b.add k value
  | .error _ => b

def isEmpty (b : Binding) : Bool :=
  Bucket.all.all fun k => (b.bucket k).isEmpty

/-- The values of some clauses as their placeholders take them. -/
def flatten (b : Binding) (clauses : List Bucket) : List Value :=
  clauses.flatMap fun k => (b.bucket k).flatMap Value.bound

/-- The values of every clause, in the order of a statement. -/
def values (b : Binding) : List Value :=
  b.flatten Bucket.all

/-- The values of an update: those it sets, then those of the clauses after them. -/
def updateValues (b : Binding) (set : List Value) : List Value :=
  set ++ b.flatten [.source, .filter, .having, .order, .union]

def deleteValues (b : Binding) : List Value :=
  b.flatten [.filter]

def clauseValues (b : Binding) (k : Bucket) : List Value :=
  b.flatten [k]

/-- Adds the values of another binding to a clause. -/
def merge (b : Binding) (k : Bucket) (other : Binding) : Binding :=
  b.addAll k other.values

def equal (a b : Binding) : Bool :=
  Bucket.all.all fun k => a.bucket k == b.bucket k

end Binding

end SqlMapping
