import SqlMapping.Entries
import SqlMapping.Object.Basic
import SqlMapping.TableRef

/-!
# Mappings

A mapping resolves the table, the columns and the values of one object. Its members are visited
in order of declaration, depth first; each leaf is mapped to a column qualified by the alias of
its table. A column met again keeps its first place and takes the later member.
-/

namespace SqlMapping

/-- What an object is mapped for. -/
inductive Mode where
  | select
  | insert
  | update
  deriving DecidableEq, Inhabited

def Mode.name : Mode → String
  | select => "Select"
  | insert => "Insert"
  | update => "Update"

/-- A leaf member mapped to its column. -/
structure MappedField where
  /-- The column, qualified where an alias applies. -/
  column : String
  kind : Kind
  tag : Tag
  value : Value
  zero : Bool
  /-- What is scanned from a row. -/
  buffer : Value
  scanned : Bool
  /-- The places of the members that lead to this one. -/
  path : List Nat

namespace MappedField

/-- The value of an insert: an unset time or an empty codec is null. -/
def insertValue (f : MappedField) : Value :=
  match f.kind with
  | .null => .null
  | .time | .codec => if f.zero && !f.tag.updateZero then .null else f.value
  | _ => f.value

/-- The value of an update; a zero member is left out unless its tag keeps it. -/
def updateValue? (f : MappedField) : Option Value :=
  if f.zero && !f.tag.updateZero then none
  else some (if f.kind = .null then .null else f.value)

end MappedField

/-- What the members of an object are resolved against. -/
structure Scope where
  naming : Naming
  /-- The aliases of the tables of a statement, by name. -/
  aliases : Option (List (String × String))
  mode : Mode

namespace Scope

/-- The alias of a joined table without one of its own: from the statement if there is one, else
the name of the table. -/
def aliasOf (s : Scope) (table : String) : String :=
  match s.aliases with
  | some aliases => (Entries.find? table aliases).getD ""
  | none => table

/-- The table of an extension: from its tag, from its type, or after the member. -/
def extension (s : Scope) (member : String) (tag : Tag) (nested : Option Object) : TableRef :=
  match tag.extendTable with
  | some table => { name := table, aliasName := tag.extendAlias.getD (s.aliasOf table) }
  | none =>
    let declared := (nested.map Object.table).getD ""
    if declared.isEmpty then
      let name := s.naming.table member
      { name, aliasName := s.aliasOf name }
    else
      let table := TableRef.parse declared
      if table.aliasName.isEmpty then { table with aliasName := s.aliasOf table.name } else table

def column (s : Scope) (qualifier member : String) (tag : Tag) : String :=
  let column := tag.columnName member s.naming
  if tag.useAlias && !qualifier.isEmpty then s!"{qualifier}.{column}" else column

def leaf (s : Scope) (qualifier member : String) (tag : Tag) (path : List Nat) (f : Field) :
    MappedField :=
  { column := s.column qualifier member tag, kind := f.kind, tag, value := f.toValue
    zero := f.isZero, buffer := f.buffer, scanned := false, path }

end Scope

mutual
/-- The table of an object's first extension, depth first. -/
def Object.firstExtension (s : Scope) : Object → Result (Option TableRef)
  | ⟨_, _, _, _, members⟩ => firstExtensionAmong s members
/-- The table of the first extension among members. -/
def firstExtensionAmong (s : Scope) : List Member → Result (Option TableRef)
  | [] => .ok none
  | m :: ms => do
    match ← m.firstExtension s with
    | some t => return some t
    | none => firstExtensionAmong s ms
/-- The table of a member that is an extension or holds one. -/
def Member.firstExtension (s : Scope) : Member → Result (Option TableRef)
  | .unsupported _ tag _ => do
    let _ ← Tag.parse tag
    return none
  | .field name tag f => do
    let t ← Tag.parse tag
    if t.ignore || f.kind != .nested then return none
    else if t.extend then return some (s.extension name t f.object?)
    else f.firstExtension s
/-- The table of the first extension in a present nested object. -/
def Field.firstExtension (s : Scope) : Field → Result (Option TableRef)
  | .nested o => o.firstExtension s
  | .optional _ _ _ (some f) => f.firstExtension s
  | _ => .ok none
end

/-- Leaves in the order of the visit, and the failure that ended it. -/
abbrev Visit := Attempt (List MappedField)

mutual
/-- The leaves of an object at a path. -/
def Object.visit (s : Scope) (qualifier : String) (path : List Nat) : Object → Visit
  | ⟨_, _, _, _, members⟩ => visitAll s qualifier path 0 members
/-- The leaves of members, the first of which has the given place. -/
def visitAll (s : Scope) (qualifier : String) (path : List Nat) (place : Nat) : List Member → Visit
  | [] => ⟨[], none⟩
  | m :: ms =>
    match m.visit s qualifier (path ++ [place]) with
    | ⟨leaves, some e⟩ => ⟨leaves, some e⟩
    | ⟨leaves, none⟩ => (visitAll s qualifier path (place + 1) ms).map (leaves ++ ·)
def Member.visit (s : Scope) (qualifier : String) (path : List Nat) : Member → Visit
  | .unsupported name tag k =>
    match Tag.parse tag with
    | .error e => ⟨[], some e⟩
    | .ok t => if t.ignore then ⟨[], none⟩ else ⟨[], some (k.cause name)⟩
  | .field name tag f =>
    match Tag.parse tag with
    | .error e => ⟨[], some e⟩
    | .ok t =>
      if t.ignore then ⟨[], none⟩
      else if f.kind = .nested then
        let qualifier :=
          if t.extend then (s.extension name t f.object?).aliasName else qualifier
        f.visit s qualifier path name
      else if f.isNull && s.mode = .select then ⟨[], some (Cause.nullFieldUnassignable name)⟩
      else ⟨[s.leaf qualifier name t path f], none⟩
/-- The leaves of a nested object; an absent one cannot be selected, and writes nothing. -/
def Field.visit (s : Scope) (qualifier : String) (path : List Nat) (member : String) : Field → Visit
  | .nested o => o.visit s qualifier path
  | .optional _ _ _ (some f) => f.visit s qualifier path member
  | .optional _ _ _ none =>
    if s.mode = .select then ⟨[], some (Cause.nullFieldUnassignable member)⟩ else ⟨[], none⟩
  | .scalar _ => ⟨[], none⟩
end

/-- The table, columns and values of one object. -/
structure Mapping where
  naming : Naming
  aliases : Option (List (String × String)) := none
  table : TableRef := {}
  /-- The table was given and is not resolved from the object. -/
  tableGiven : Bool := false
  primaryKey : String := "id"
  mode : Mode := .select
  fields : List MappedField := []

namespace Mapping

/-- Sets a leaf in the place of its column, or at the end. -/
def putField (f : MappedField) : List MappedField → List MappedField
  | [] => [f]
  | g :: gs => if g.column = f.column then f :: gs else g :: putField f gs

/-- Leaves by column, in order of the first of each. -/
def collect (leaves : List MappedField) : List MappedField :=
  leaves.foldl (fun fs f => putField f fs) []

/-- Gives the table; an empty one is passed over. -/
def setTable (m : Mapping) (t : TableRef) : Mapping :=
  if t.isEmpty then m else { m with table := t, tableGiven := true }

def scope (m : Mapping) (mode : Mode) : Scope :=
  { naming := m.naming, aliases := m.aliases, mode }

/-- The table of an object: the declared one, else the one named after its type, else the one of
its first extension. -/
def resolveTable (m : Mapping) (mode : Mode) (o : Object) : Result TableRef :=
  if !o.table.isEmpty then .ok (.parse o.table)
  else if !o.typeName.isEmpty then .ok { name := m.naming.table o.typeName }
  else (o.firstExtension (m.scope mode)).map (·.getD {})

/-- Maps an object. What was mapped before a failure stays mapped. -/
def parse (m : Mapping) (mode : Mode) (o : Object) : Attempt Mapping :=
  if o.members.isEmpty then ⟨m, some Cause.objectNoFields⟩
  else
    let m := { m with mode, fields := [] }
    match if m.tableGiven then .ok m.table else m.resolveTable mode o with
    | .error e => ⟨m, some e⟩
    | .ok table =>
      let m := { m with table, primaryKey := o.primaryKey }
      let qualifier := if mode = .insert then "" else table.aliasName
      (o.visit (m.scope mode) qualifier []).map fun leaves => { m with fields := collect leaves }

/-- Maps an object for a select, after filling its absent members. -/
def parseSelect (m : Mapping) (o : Object) : Attempt (Mapping × Object) :=
  match o.allocate with
  | ⟨o, some e⟩ => ⟨(m, o), some e⟩
  | ⟨o, none⟩ => (m.parse .select o).map fun m => (m, o)

/-- The primary key, qualified by the alias of the table. -/
def qualifiedKey (m : Mapping) : String :=
  if m.table.aliasName.isEmpty then m.primaryKey else m.table.aliasName ++ "." ++ m.primaryKey

def columns (m : Mapping) : List String :=
  m.fields.map MappedField.column

def field? (m : Mapping) (column : String) : Option MappedField :=
  m.fields.find? (·.column = column)

/-- The columns and values of an insert. -/
def insertValues (m : Mapping) : List (String × Value) :=
  m.fields.map fun f => (f.column, f.insertValue)

/-- The columns and values of an update. -/
def updateValues (m : Mapping) : List (String × Value) :=
  m.fields.filterMap fun f => f.updateValue?.map fun v => (f.column, v)

/-- The values of an insert into given columns, null for one that is not mapped. -/
def valuesOf (m : Mapping) (columns : List String) : List Value :=
  columns.map fun c => ((m.field? c).map MappedField.insertValue).getD .null

end Mapping

end SqlMapping
