import SqlMapping.Dialect
import SqlMapping.TableRef
import SqlMapping.Text.Pieces

/-!
# Statement text

A statement is a list of tokens, so that what is an identifier, a placeholder, an operator given
by the caller or the statement's own wording stays apart until it is rendered in a dialect.
-/

namespace SqlMapping

/-- A part of a statement. -/
inductive Token where
  /-- Fixed wording, blanks and punctuation. -/
  | word (text : String)
  /-- An identifier, not yet quoted. -/
  | name (text : String)
  /-- The placeholder of one value. -/
  | mark
  /-- An operator taken from the caller as it is. -/
  | operator (text : String)
  deriving DecidableEq

/-- A statement or a part of one. -/
abbrev Sql := List Token

def Token.text (d : Dialect) : Token → List Char
  | word s => s.toList
  | name s => d.quoted s
  | mark => ['?']
  | operator s => s.toList

namespace Sql

def chars (d : Dialect) (s : Sql) : List Char :=
  s.flatMap (Token.text d)

/-- The text of a statement as a string. -/
def render (d : Dialect) (s : Sql) : String :=
  String.ofList (chars d s)

def marks (s : Sql) : Nat :=
  s.count .mark

/-- A name as the part before its first point and the part after it. -/
def splitQualifier (name : String) : Option (String × String) :=
  match name.toList.dropWhile (· != '.') with
  | [] => none
  | _ :: rest => some (String.ofList (name.toList.takeWhile (· != '.')), String.ofList rest)

/-- A column name, or a star. -/
def columnName (name : String) : Token :=
  if name = "*" then .word "*" else .name name

/-- A column, `table.column` and `column as alias` included. -/
def column (text : String) : Sql :=
  let (name, aliasName) := Alias.split text
  let body := match splitQualifier name with
    | some (table, name) => [.name table, .word ".", columnName name]
    | none => [columnName name]
  body ++ if aliasName.isEmpty then [] else [.word " as ", .name aliasName]

def columns (texts : List String) : Sql :=
  Text.joinPieces [.word ","] (texts.map column)

def table (name : String) : Sql :=
  [.name name]

/-- A table with its alias, nothing when it has no name. -/
def tableRef (t : TableRef) : Sql :=
  if t.name.isEmpty then []
  else table t.name ++ if t.aliasName.isEmpty then [] else .word " as " :: table t.aliasName

def placeholders (n : Nat) : Sql :=
  Text.joinPieces [.word ","] (List.replicate n [.mark])

/-- The placeholders of a value: none when it cannot be bound, one for each item of a list that
can. -/
def placeholdersFor (v : Value) : Sql :=
  match v with
  | .list items => placeholders (items.countP Value.isBindable)
  | .record _ => []
  | v => if v.isNull then [] else [.mark]

end Sql

end SqlMapping
