import SqlMapping.Query.Basic

/-!
# Steps

The calls that build a query, as data. A join and a sub query are themselves described by steps.
-/

namespace SqlMapping

mutual
/-- One call on a query. -/
inductive Step where
  | table (text : String)
  | aliased (text : String)
  | distinct
  | select (columns : List String)
  | join (kind : JoinKind) (table : String) (steps : List JoinStep)
  | compare (logic : Logic) (column operator : String) (value : Value)
  | among (logic : Logic) (column : String) (values : List Value) (negated : Bool)
  | between (logic : Logic) (column : String) (first last : Value) (negated : Bool)
  | null (logic : Logic) (column : String) (negated : Bool)
  | sub (logic : Logic) (column operator : String) (steps : List Step)
  | order (columns : List String) (direction : String)
  | skip (rows : Int)
  | take (rows : Int)
  | reset
/-- One call on a join: a condition, or a call on its query. -/
inductive JoinStep where
  | on (logic : Logic) (first operator second : String)
  | query (step : Step)
end

mutual
def Query.apply (q : Query) : Step → Query
  | .table text => q.setTable text
  | .aliased text => q.setAlias text
  | .distinct => { q with distinct := true }
  | .select columns => { q with columns }
  | .join kind table steps => q.addJoin (Join.run (Join.start q.dialect kind table) steps)
  | .compare logic column operator value => q.compare logic column operator value
  | .among logic column values negated => q.among logic column values negated
  | .between logic column first last negated => q.between logic column first last negated
  | .null logic column negated => q.addWhere (.null logic column negated)
  | .sub logic column operator steps =>
    q.compareSub logic column operator (Query.run (.empty q.dialect) steps)
  | .order columns direction => q.orderBy columns (.parse direction)
  | .skip rows => q.skip rows
  | .take rows => q.take rows
  | .reset => .empty q.dialect
def Query.run (q : Query) : List Step → Query
  | [] => q
  | s :: ss => Query.run (q.apply s) ss
def Join.apply (j : Join) : JoinStep → Join
  | .on logic first operator second => j.on logic first operator second
  | .query s => { j with query := j.query.apply s }
def Join.run (j : Join) : List JoinStep → Join
  | [] => j
  | s :: ss => Join.run (j.apply s) ss
end

end SqlMapping
