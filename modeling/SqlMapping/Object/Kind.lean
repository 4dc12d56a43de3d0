import SqlMapping.Failure

/-!
# Kinds of members
-/

namespace SqlMapping

/-- How a member is stored. -/
inductive Kind where
  | integer
  | float
  | text
  | boolean
  | time
  | bytes
  | codec
  /-- An absent optional scalar. -/
  | null
  /-- A member with columns of its own. -/
  | nested
  deriving DecidableEq, Inhabited

def Kind.name : Kind → String
  | integer => "Integer"
  | float => "Float"
  | text => "Text"
  | boolean => "Boolean"
  | time => "Time"
  | bytes => "Bytes"
  | codec => "Codec"
  | null => "Null"
  | nested => "Nested"

/-- Whether a member is stored in one column. -/
def Kind.isScalar (k : Kind) : Bool :=
  k ≠ .nested

/-- Shapes of members that no column can store. -/
inductive Unsupported where
  | slice
  | map
  | set
  | array
  | tuple
  | function
  | channel
  deriving DecidableEq, Inhabited

namespace Unsupported

def all : List Unsupported :=
  [slice, map, set, array, tuple, function, channel]

def name : Unsupported → String
  | slice => "slice"
  | map => "map"
  | set => "set"
  | array => "array"
  | tuple => "tuple"
  | function => "function"
  | channel => "channel"

/-- The path of a shape in generated code. -/
def path (k : Unsupported) : String :=
  "::strata::UnsupportedKind::" ++ match k with
    | slice => "Slice"
    | map => "Map"
    | set => "Set"
    | array => "Array"
    | tuple => "Tuple"
    | function => "Function"
    | channel => "Channel"

/-- The failure to map a member of such a shape. -/
def cause (k : Unsupported) (member : String) : Cause :=
  match k with
  | slice => .fieldSliceType member
  | k => .unsupportedFieldType member k.name

end Unsupported

end SqlMapping
