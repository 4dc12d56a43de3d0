import SqlMapping.Number.Layout
import SqlMapping.Text.Quoted
import SqlMapping.Value.Basic

/-!
# Values shown

Two ways to show a value: `display` as statements with their values filled in show it, and
`describe` as messages about a value do, with its type and its exact content.
-/

namespace SqlMapping.Value

/-- Numbers in displayed values are positional. -/
def displayLayout : Number.Layout :=
  { positional := none, pointed := false, tie := .up }

/-- Numbers in described values have a point or an exponent. -/
def describeLayout : Number.Layout :=
  { positional := some (-4, 15), pointed := true, tie := .up }

/-- Two small hexadecimal digits of a byte. -/
def byteText (b : UInt8) : List Char :=
  let digits := Nat.toDigits 16 b.toNat
  if digits.length < 2 then '0' :: digits else digits

mutual
/-- A value as text: nulls as `NULL`, text as it is, bytes in hexadecimal. -/
def display : Value → String
  | boolean (some b) => if b then "true" else "false"
  | integer _ (some n) => toString n.val
  | float _ (some x) => displayLayout.write x
  | text (some s) => s
  | blob (some bytes) => "0x" ++ String.ofList (bytes.flatMap byteText)
  | timestamp (some d) => d.text
  | list items => "(" ++ ",".intercalate (displayItems items) ++ ")"
  | record entries => "\x7b" ++ ",".intercalate (displayEntries entries) ++ "\x7d"
  | _ => "NULL"
def displayItems : List Value → List String
  | [] => []
  | v :: vs => display v :: displayItems vs
def displayEntries : List (String × Value) → List String
  | [] => []
  | (k, v) :: es => (k ++ ":" ++ display v) :: displayEntries es
end

def describeContent : Option String → String
  | none => "(None)"
  | some s => "(Some(" ++ s ++ "))"

/-- The type of a value as messages name it. -/
def variant : Value → String
  | null => "Null"
  | boolean _ => "Boolean"
  | integer .i8 _ => "Int8"
  | integer .i16 _ => "Int16"
  | integer .i32 _ => "Int32"
  | integer .i64 _ => "Int64"
  | integer .u8 _ => "UInt8"
  | integer .u16 _ => "UInt16"
  | integer .u32 _ => "UInt32"
  | integer .u64 _ => "UInt64"
  | float .single _ => "Float32"
  | float .double _ => "Float64"
  | text _ => "Varchar"
  | blob _ => "Blob"
  | timestamp _ => "Timestamp"
  | list _ => "List"
  | record _ => "Map"

mutual
/-- A value with its type and exact content. -/
def describe : Value → String
  | null => "Null"
  | boolean v => "Boolean" ++ describeContent (v.map fun b => if b then "true" else "false")
  | integer t v => variant (integer t none) ++ describeContent (v.map fun n => toString n.val)
  | float t v => variant (float t none) ++ describeContent (v.map describeLayout.write)
  | text v => "Varchar" ++ describeContent (v.map Text.quoted)
  | blob v =>
    "Blob" ++ describeContent (v.map fun bytes =>
      "[" ++ ", ".intercalate (bytes.map fun b => toString b.toNat) ++ "]")
  | timestamp v => "Timestamp" ++ describeContent (v.map DateTime.precise)
  | list items => "List([" ++ ", ".intercalate (describeItems items) ++ "])"
  | record entries => "Map(\x7b" ++ ", ".intercalate (describeEntries entries) ++ "\x7d)"
def describeItems : List Value → List String
  | [] => []
  | v :: vs => describe v :: describeItems vs
def describeEntries : List (String × Value) → List String
  | [] => []
  | (k, v) :: es => (Text.quoted k ++ ": " ++ describe v) :: describeEntries es
end

end SqlMapping.Value
