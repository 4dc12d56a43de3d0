import SqlMapping.Alias
import SqlMapping.Naming
import SqlMapping.Text.Split
import SqlMapping.Text.Truth

/-!
# Tags

The annotation of a member: entries between semicolons, each a key with an optional value after a
colon. A whole tag `-` or `ignore` leaves the member out.
-/

namespace SqlMapping

/-- A member's annotation. -/
structure Tag where
  ignore : Bool := false
  /-- The member is a joined table, mapped in turn. -/
  extend : Bool := false
  extendTable : Option String := none
  extendAlias : Option String := none
  column : Option String := none
  /-- The column is qualified by the alias of its table. -/
  useAlias : Bool := true
  /-- The member is written on update even when it is zero. -/
  updateZero : Bool := false
  deriving DecidableEq, Inhabited

namespace Tag

/-- The key and the value of an entry, both trimmed; without a colon it is all key. -/
def keyValue (entry : List Char) : String × String :=
  match entry.dropWhile (· != ':') with
  | [] => (String.ofList entry, "")
  | _ :: value =>
    (String.ofList (Text.trim (entry.takeWhile (· != ':'))), String.ofList (Text.trim value))

/-- A tag with the table it extends to, and the alias if the text has one. -/
def withExtension (t : Tag) (value : String) : Tag :=
  if value.isEmpty then { t with extend := true }
  else
    let (table, aliasName) := Alias.split value
    { t with
      extend := true
      extendTable := some table
      extendAlias := if aliasName.isEmpty then none else some aliasName }

/-- A tag with one more entry, or the reason why the entry is none. -/
def addEntry (t : Tag) (key value : String) : Except String Tag :=
  match key with
  | "col" =>
    if value.isEmpty then .error "`col` requires a column name"
    else .ok { t with column := some value }
  | "extend" => .ok (t.withExtension value)
  | "use_alias" =>
    match Text.truth? value with
    | some b => .ok { t with useAlias := b }
    | none => .error s!"`{value}` is not a boolean for `use_alias`"
  | "update_zero" =>
    match Text.truth? value with
    | some b => .ok { t with updateZero := b }
    | none => .error s!"`{value}` is not a boolean for `update_zero`"
  | "ignore" | "-" => .ok { t with ignore := true }
  | _ => .error s!"unknown attribute `{key}`"

/-- A tag with the entries of a text. -/
def addEntries (t : Tag) : List (List Char) → Except String Tag
  | [] => .ok t
  | e :: es =>
    let entry := Text.trim e
    if entry.isEmpty then t.addEntries es
    else
      let (key, value) := keyValue entry
      match t.addEntry key value with
      | .ok t => t.addEntries es
      | .error reason => .error reason

def parse (raw : String) : Result Tag :=
  let text := Text.trimmed raw
  if text = "-" || text = "ignore" then .ok { ignore := true }
  else
    match addEntries {} (Text.splitAll ';' text.toList) with
    | .ok t => .ok t
    | .error reason => .fail (.invalidTag text reason)

/-- The column of a member, before it is qualified. -/
def columnName (t : Tag) (member : String) (naming : Naming) : String :=
  t.column.getD (naming.column member)

end Tag

end SqlMapping
