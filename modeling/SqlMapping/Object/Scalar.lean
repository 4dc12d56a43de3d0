import SqlMapping.Object.Kind
import SqlMapping.Value.Convert

/-!
# Scalar members

A member stored in one column: what is written for it, and how a column's value is assigned to
it.
-/

namespace SqlMapping

/-- How a list of words is kept in the bytes of a column. -/
structure Codec where
  /-- The words after reading bytes, given the words before. -/
  read : List String → List UInt8 → List String
  write : List String → List UInt8

namespace Codec

/-- Words between commas. -/
def commaSeparated : Codec where
  read _ bytes :=
    ((Text.Utf8.decodeLenient bytes).splitOn ",").filter fun w => !w.isEmpty
  write words := Text.Utf8.encode (",".intercalate words)

end Codec

/-- The content of a scalar member. -/
inductive Scalar where
  | integer (k : IntKind) (n : Bounded k.stored)
  | float (t : FloatType) (x : Binary t)
  | boolean (b : Bool)
  | text (s : String)
  | bytes (b : List UInt8)
  | time (d : DateTime)
  | coded (c : Codec) (words : List String)
  /-- A member of a type of its own, which always reads as `shown` and takes no value. -/
  | constant (typeName shown : String)

namespace Scalar

instance : Inhabited Scalar := ⟨boolean false⟩

def kind : Scalar → Kind
  | integer .. => .integer
  | float .. => .float
  | boolean _ => .boolean
  | text _ => .text
  | bytes _ => .bytes
  | time _ => .time
  | coded .. => .codec
  | constant .. => .text

def toValue : Scalar → Value
  | integer k n => .integer k.stored (some n)
  | float t x => .float t (some x)
  | boolean b => .boolean (some b)
  | text s => .text (some s)
  | bytes b => .blob (some b)
  | time d => .text (some d.text)
  | coded c words => .blob (some (c.write words))
  | constant _ shown => .text (some shown)

def isZero : Scalar → Bool
  | integer _ n => n.val = 0
  | float _ x => x.isZero
  | boolean b => !b
  | text s => s.isEmpty
  | bytes b => b.isEmpty
  | time d => d = DateTime.zero
  | coded c words => (c.write words).isEmpty
  | constant .. => false

/-- The typed null that a column is scanned into. -/
def buffer : Scalar → Value
  | integer k _ => if k.stored.least < 0 then .integer .i64 none else .integer .u64 none
  | float .. => .float .double none
  | boolean _ => .boolean none
  | text _ => .text none
  | bytes _ => .blob none
  | time _ => .blob none
  | coded .. => .blob none
  | constant .. => .text none

/-- The content of a fresh member of the same type, if there is one. -/
def fresh? : Scalar → Option Scalar
  | integer k _ => some (integer k (.zero _))
  | float t _ => some (float t (.zero t))
  | boolean _ => some (boolean false)
  | text _ => some (text "")
  | bytes _ => some (bytes [])
  | time _ => some (time .zero)
  | coded c _ => some (coded c [])
  | constant .. => none

/-- The content after a column's value is assigned. A null empties the member; a text that is no
date leaves the zero time, like a column that is not set. -/
def assign (v : Value) : Scalar → Result Scalar
  | integer k _ => if v.isNull then .ok (integer k (.zero _)) else (v.toInteger k).map (integer k)
  | float t _ => if v.isNull then .ok (float t (.zero t)) else (v.toBinary t).map (float t)
  | boolean _ => if v.isNull then .ok (boolean false) else v.toBoolean.map boolean
  | text _ => if v.isNull then .ok (text "") else v.toText.map text
  | bytes _ => if v.isNull then .ok (bytes []) else v.toBytes.map bytes
  | time _ =>
    if v.isNull then .ok (time .zero)
    else .ok (time (v.toDateTime.toOption.getD .zero))
  | coded c words =>
    if v.isNull then .ok (coded c (c.read words []))
    else v.toBytes.map fun b => coded c (c.read words b)
  | constant typeName shown => .ok (constant typeName shown)

end Scalar

end SqlMapping
