import SqlMapping.Declaration.TypeExpr
import SqlMapping.Object.Basic

/-!
# Declared structs

What the declaration of a struct says about its objects: the attributes of the struct, then its
public members with their tags. The first fault ends the reading.
-/

namespace SqlMapping

/-- A literal in an attribute. -/
inductive Literal where
  | text (s : String)
  | number
  deriving DecidableEq

/-- A member as it is declared. -/
structure MemberDeclaration where
  isPublic : Bool
  name : String
  type : TypeExpr
  /-- The annotations of the member, the first of which is its tag. -/
  tags : List Literal := []

/-- A struct as it is declared. -/
structure StructDeclaration where
  name : String
  /-- The attributes, each a list of keys with or without a value. -/
  attributes : List (List (String × Option Literal)) := []
  members : List MemberDeclaration

/-- Why a declaration can not be read. -/
inductive DeclarationFault where
  | structAttribute (struct reason : String)
  | memberAttribute (member : String)
  | memberTag (member : String) (failure : Failure)
  | unknownType

def DeclarationFault.message : DeclarationFault → String
  | structAttribute struct reason =>
    s!"Error while parsing `strata` on `{struct}` ({reason}), use it like " ++
      "#[strata(table = \"users as u\", primary_key = \"id\", anonymous)]"
  | memberAttribute member =>
    s!"Error while parsing `strata` on `{member}`, use it like " ++
      "#[strata(\"col:" ++ member ++ ";use_alias:false\")]"
  | memberTag member failure =>
    s!"Error while parsing the tag of `{member}`: " ++ failure.message
  | unknownType => "Unknown type, it can't be mapped to a column"

/-- A public member with its tag; `unsupported` when no column can store it. -/
structure MemberDescription where
  name : String
  tag : String
  unsupported : Option Unsupported
  deriving DecidableEq

/-- What a declaration says. -/
structure StructDescription where
  name : String
  table : Option String := none
  primaryKey : Option String := none
  /-- The struct is a projection without a table name of its own. -/
  anonymous : Bool := false
  members : List MemberDescription := []
  deriving DecidableEq

namespace StructDescription

def textOf : Option Literal → Except String String
  | none => .error "expected `=`"
  | some (.text s) => .ok s
  | some .number => .error "expected string literal"

/-- A description with one key of an attribute read. -/
def readKey (d : StructDescription) (key : String) (value : Option Literal) :
    Except String StructDescription :=
  match key with
  | "table" => (textOf value).map fun s => { d with table := some s }
  | "primary_key" => (textOf value).map fun s => { d with primaryKey := some s }
  | "anonymous" =>
    match value with
    | none => .ok { d with anonymous := true }
    | some _ => .error "expected `,`"
  | _ => .error "unknown attribute"

/-- A description with keys read in turn; the last value of a key stays. -/
def readKeys (d : StructDescription) :
    List (String × Option Literal) → Except String StructDescription
  | [] => .ok d
  | (key, value) :: rest =>
    match d.readKey key value with
    | .ok d => d.readKeys rest
    | .error reason => .error reason

end StructDescription

namespace MemberDeclaration

/-- The text of the tag, which is empty when there is none. -/
def tagText (m : MemberDeclaration) : Except DeclarationFault String :=
  match m.tags with
  | [] => .ok ""
  | .text s :: _ => .ok s
  | .number :: _ => .error (.memberAttribute m.name)

/-- What the declaration of a member says. -/
def describe (m : MemberDeclaration) : Except DeclarationFault MemberDescription := do
  let tag ← m.tagText
  match Tag.parse tag with
  | .error failure => .error (.memberTag m.name failure)
  | .ok _ =>
    match m.type.storage? with
    | none => .error .unknownType
    | some .field => .ok { name := m.name, tag, unsupported := none }
    | some (.unsupported k) => .ok { name := m.name, tag, unsupported := some k }

end MemberDeclaration

/-- What the public members say, in order. -/
def describeMembers : List MemberDeclaration → Except DeclarationFault (List MemberDescription)
  | [] => .ok []
  | m :: ms =>
    if m.isPublic then do
      let d ← m.describe
      return d :: (← describeMembers ms)
    else describeMembers ms

def StructDeclaration.describe (s : StructDeclaration) :
    Except DeclarationFault StructDescription := do
  let d ← (({ name := s.name } : StructDescription).readKeys s.attributes.flatten).mapError
    (DeclarationFault.structAttribute s.name)
  let members ← describeMembers s.members
  return { d with members }

namespace StructDescription

/-- The members of an object from their descriptions and the contents of those that have one. -/
def membersWith : List MemberDescription → List Field → List Member
  | [], _ => []
  | m :: ms, contents =>
    match m.unsupported, contents with
    | some k, contents => .unsupported m.name m.tag k :: membersWith ms contents
    | none, f :: contents => .field m.name m.tag f :: membersWith ms contents
    | none, [] => []

/-- An object of the struct with the contents of its members. -/
def object (d : StructDescription) (contents : List Field) : Object where
  label := d.name
  typeName := if d.anonymous then "" else d.name
  table := d.table.getD ""
  primaryKey := d.primaryKey.getD "id"
  members := membersWith d.members contents

/-- The name of the factory of fresh objects. -/
def factory (d : StructDescription) : String :=
  d.name ++ "NewEmptyFactory"

end StructDescription

end SqlMapping
