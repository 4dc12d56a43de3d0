import SqlMapping.DateTime
import SqlMapping.Number.Binary
import SqlMapping.Number.Integer
import SqlMapping.Text.Utf8

/-!
# Values

What a column holds and a placeholder is bound to. Besides the plain null each scalar type has a
null of its own; lists and records are values only on the way to a statement.
-/

namespace SqlMapping

/-- A value of a column or of a placeholder. -/
inductive Value where
  | null
  | boolean (v : Option Bool)
  | integer (t : IntType) (v : Option (Bounded t))
  | float (t : FloatType) (v : Option (Binary t))
  | text (v : Option String)
  | blob (v : Option (List UInt8))
  | timestamp (v : Option DateTime)
  | list (items : List Value)
  /-- A record, its keys ascending. -/
  | record (entries : List (String × Value))

/-- A row by column names, its keys ascending. -/
abbrev Record := List (String × Value)

namespace Value

instance : Inhabited Value := ⟨null⟩

/-- The plain null and the null of each type. -/
def isNull : Value → Bool
  | null | boolean none | integer _ none | float _ none | text none | blob none
  | timestamp none => true
  | _ => false

/-- Whether a value takes a single placeholder. -/
def isBindable : Value → Bool
  | list _ | record _ => false
  | _ => true

def typeName : Value → String
  | null => "null"
  | boolean _ => "boolean"
  | integer .i8 _ => "int8"
  | integer .i16 _ => "int16"
  | integer .i32 _ => "int32"
  | integer .i64 _ => "int64"
  | integer .u8 _ => "uint8"
  | integer .u16 _ => "uint16"
  | integer .u32 _ => "uint32"
  | integer .u64 _ => "uint64"
  | float .single _ => "float32"
  | float .double _ => "float64"
  | text _ => "varchar"
  | blob _ => "blob"
  | timestamp _ => "timestamp"
  | list _ => "list"
  | record _ => "map"

/-- The bytes of a column as text: records show them so. -/
def intoText : Value → Value
  | blob (some bytes) => text (some (Text.Utf8.decodeLenient bytes))
  | blob none => text none
  | v => v

/-- The number that an integer or a truth value stands for. -/
def number? : Value → Option Int
  | integer _ (some n) => some n.val
  | boolean (some b) => some (if b then 1 else 0)
  | _ => none

/-- The bytes of a text or a blob. -/
def bytes? : Value → Option (List UInt8)
  | text (some s) => some (Text.Utf8.encode s)
  | blob (some b) => some b
  | _ => none

/-- Equality of optional floating numbers, by value. -/
def equalFloats {t : FloatType} : Option (Binary t) → Option (Binary t) → Bool
  | none, none => true
  | some x, some y => x.equal y
  | _, _ => false

mutual
/-- Equality of values: floating numbers are equal by value, so that NaN differs from itself. -/
def equal : Value → Value → Bool
  | null, null => true
  | boolean a, boolean b => a == b
  | integer t a, integer s b => t == s && a.map Bounded.val == b.map Bounded.val
  | float .single a, float .single b => equalFloats a b
  | float .double a, float .double b => equalFloats a b
  | text a, text b => a == b
  | blob a, blob b => a == b
  | timestamp a, timestamp b => a == b
  | list a, list b => equalLists a b
  | record a, record b => equalRecords a b
  | _, _ => false
def equalLists : List Value → List Value → Bool
  | [], [] => true
  | a :: as, b :: bs => equal a b && equalLists as bs
  | _, _ => false
def equalRecords : List (String × Value) → List (String × Value) → Bool
  | [], [] => true
  | (k, a) :: as, (l, b) :: bs => k == l && equal a b && equalRecords as bs
  | _, _ => false
end

instance : BEq Value := ⟨equal⟩

end Value

end SqlMapping
