import SqlMapping.Query.Basic
import SqlMapping.Sql

/-!
# Compiled queries

The statements that read or delete what a query describes.
-/

namespace SqlMapping

/-- A failure of the query or the lack of a table, before anything is compiled. -/
def requireTable (failure : Option Cause) (table : TableRef) : Result Unit :=
  match failure with
  | some c => .fail c
  | none => if table.isEmpty then .fail .tableMissing else .ok ()

namespace Sql

/-- The columns of a select, all of them when none is named. -/
def selection (distinct : Bool) (texts : List String) : Sql :=
  .word (if distinct then "select distinct " else "select ") ::
    if texts.isEmpty then [.word "*"] else columns texts

def source (t : TableRef) : Sql :=
  .word "from " :: tableRef t

/-- The order of a select, nothing without columns. -/
def order (texts : List String) (direction : Direction) : Sql :=
  if texts.isEmpty then []
  else .word "order by " :: columns texts ++ [.word (" " ++ direction.word)]

def page : Option Nat → Option Nat → Sql
  | some limit, some offset => [.word s!"limit {limit} offset {offset}"]
  | some limit, none => [.word s!"limit {limit}"]
  | none, some offset => [.word s!"offset {offset}"]
  | none, none => []

/-- `not ` for a negated predicate. -/
def negation (negated : Bool) : String :=
  if negated then "not " else ""

/-- Conditions, each after its connective. -/
def conditions (cs : List (Logic × Sql)) : Sql :=
  Text.joinPieces [.word " "] (cs.map fun (logic, body) => .word (logic.word ++ " ") :: body)

/-- A where clause, which drops the first connective; nothing without conditions. -/
def filter : List (Logic × Sql) → Sql
  | [] => []
  | (_, body) :: cs =>
    .word "where " :: body ++ if cs.isEmpty then [] else .word " " :: conditions cs

/-- The condition a join starts or continues with. -/
def joinCondition (first : Bool) (c : JoinCondition) : Sql :=
  .word (if first then " on " else " " ++ c.logic.word ++ " ") :: column c.first ++
    .word " " :: .operator c.operator :: .word " " :: column c.second

def joinConditions : List JoinCondition → Sql
  | [] => []
  | c :: cs => joinCondition true c ++ cs.flatMap (joinCondition false)

/-- A join with its conditions and predicates. -/
def joined (kind : JoinKind) (table : TableRef) (on : List JoinCondition)
    (wheres : List (Logic × Sql)) : Sql :=
  .word (kind.words ++ " ") :: tableRef table ++ joinConditions on ++
    if wheres.isEmpty then [] else .word " " :: conditions wheres

/-- Parts between blanks, those that are empty left out. -/
def phrase (parts : List Sql) : Sql :=
  Text.joinPieces [.word " "] parts

end Sql

/-- The body of a predicate without a sub query; empty when its value cannot be bound. -/
def Predicate.plain (column : String) (before : String) (marks : Sql) (after : String) : Sql :=
  if marks.isEmpty then [] else Sql.column column ++ .word before :: marks ++ [.word after]

mutual
def Query.selectSql : Query → Result Sql
  | ⟨_, failure, distinct, columns, table, joins, _, wheres, orderColumns, direction, limit,
      offset, _⟩ => do
    requireTable failure table
    let joins ← joinsSql joins
    let wheres ← wheresSql wheres
    return Sql.phrase
      [Sql.selection distinct columns, Sql.source table, Sql.phrase joins, Sql.filter wheres,
        Sql.order orderColumns direction, Sql.page limit offset]
def joinsSql : List Join → Result (List Sql)
  | [] => .ok []
  | j :: js => do
    let first ← j.sql
    let rest ← joinsSql js
    return first :: rest
def Join.sql : Join → Result Sql
  | ⟨kind, table, on, query⟩ => do
    let wheres ← query.wheresOf
    return Sql.joined kind table on wheres
def Query.wheresOf : Query → Result (List (Logic × Sql))
  | ⟨_, _, _, _, _, _, _, wheres, _, _, _, _, _⟩ => wheresSql wheres
/-- The conditions of predicates; one whose value cannot be bound is left out. -/
def wheresSql : List Predicate → Result (List (Logic × Sql))
  | [] => .ok []
  | p :: ps => do
    let first ← p.body
    let rest ← wheresSql ps
    return if first.isEmpty then rest else (p.logic, first) :: rest
/-- What a predicate says, without its connective. -/
def Predicate.body : Predicate → Result Sql
  | .compare _ column operator value =>
    .ok (Predicate.plain column (" " ++ operator ++ " ") (Sql.placeholdersFor value) "")
  | .among _ column values negated =>
    .ok (Predicate.plain column (" " ++ Sql.negation negated ++ "in (")
      (Sql.placeholdersFor (.list values)) ")")
  | .between _ column negated =>
    .ok (Sql.column column ++
      [.word (" " ++ Sql.negation negated ++ "between "), .mark, .word " and ", .mark])
  | .null _ column negated =>
    .ok (Sql.column column ++ [.word (" is " ++ Sql.negation negated ++ "null")])
  | .sub _ column operator query => do
    let select ← query.selectSql
    return Sql.column column ++
      .word " " :: .operator operator :: .word " (" :: select ++ [.word ")"]
end

namespace Query

/-- A failure of the query, if there is one. -/
def check (q : Query) : Result Unit :=
  match q.failure with
  | some c => .fail c
  | none => .ok ()

/-- The joins of a query as text of a statement. -/
def joinsText (q : Query) : Result Sql :=
  (joinsSql q.joins).map Sql.phrase

def filterSql (q : Query) : Result Sql :=
  (wheresSql q.wheres).map Sql.filter

/-- The predicates of a query as they continue a clause. -/
def conditionsSql (q : Query) : Result Sql :=
  (wheresSql q.wheres).map Sql.conditions

def deleteSql (q : Query) : Result Sql := do
  requireTable q.failure q.table
  let wheres ← q.filterSql
  return .word "delete from " :: Sql.table q.table.name ++
    if wheres.isEmpty then [] else .word " " :: wheres

end Query

/-- The select of the row with a key, which is its only value. -/
def Sql.find (distinct : Bool) (columns : List String) (table : TableRef) (primaryKey : String) :
    Sql :=
  Sql.selection distinct columns ++ .word " from " :: Sql.tableRef table ++
    .word " where " :: Sql.column primaryKey ++ [.word " = ", .mark]

end SqlMapping
