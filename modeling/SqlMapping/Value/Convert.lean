import SqlMapping.Failure
import SqlMapping.Number.Reading

/-!
# Values converted

Reading a value as one of a member's type. Texts and blobs are read by their content, which has to
be all of it; lists and records convert to nothing.
-/

namespace SqlMapping.Value

def unconvertible {α : Type} (v : Value) (target : String) : Result α :=
  .fail (.valueConversion v target)

/-- The integer of a value, whatever its range. -/
def integer? (v : Value) : Option Int :=
  match v.number? with
  | some n => some n
  | none => v.bytes?.bind Number.readInt?

/-- A value as an integer of a member's type. -/
def toInteger (k : IntKind) (v : Value) : Result (Bounded k.stored) :=
  match v.integer?.bind (Bounded.ofInt? k.stored) with
  | some n => .ok n
  | none => v.unconvertible k.name

/-- The name of a floating type in messages. -/
def floatName : FloatType → String
  | .single => "f32"
  | .double => "f64"

/-- A value as a floating number, to the nearest. -/
def toBinary (t : FloatType) (v : Value) : Result (Binary t) :=
  match v with
  | float _ (some x) => .ok (x.convert t)
  | _ =>
    match v.number? with
    | some n => .ok (Binary.ofInt t n)
    | none =>
      match v.bytes?.bind (Number.readBinary? t) with
      | some x => .ok x
      | none => v.unconvertible (floatName t)

/-- The texts that a column may hold for a truth value. -/
def truth? (bytes : List UInt8) : Option Bool :=
  if ["1", "true", "TRUE", "t"].any (Text.Utf8.encode · == bytes) then some true
  else if ["0", "false", "FALSE", "f"].any (Text.Utf8.encode · == bytes) then some false
  else none

/-- A value as a truth value: a number is true when it is not zero. -/
def toBoolean (v : Value) : Result Bool :=
  match v.number? with
  | some n => .ok (n != 0)
  | none =>
    match v.bytes?.bind truth? with
    | some b => .ok b
    | none => v.unconvertible "bool"

/-- Numbers in texts have a point or an exponent; those written positionally depend on the
type. -/
def textLayout : FloatType → Number.Layout
  | .single => { positional := some (-6, 12), pointed := true, tie := .even }
  | .double => { positional := some (-5, 15), pointed := true, tie := .even }

def toText (v : Value) : Result String :=
  match v with
  | text (some s) => .ok s
  | blob (some b) => .ok (Text.Utf8.decodeLenient b)
  | boolean (some b) => .ok (if b then "1" else "0")
  | integer _ (some n) => .ok (toString n.val)
  | float t (some x) => .ok ((textLayout t).write x)
  | timestamp (some d) => .ok d.text
  | _ => v.unconvertible "String"

def toBytes (v : Value) : Result (List UInt8) :=
  match v.bytes? with
  | some b => .ok b
  | none => v.unconvertible "Vec<u8>"

def toDateTime (v : Value) : Result DateTime :=
  match v with
  | timestamp (some d) => .ok d
  | _ =>
    let read := v.bytes?.bind fun b => (Text.Utf8.decode b).toOption.bind DateTime.parse?
    match read with
    | some d => .ok d
    | none => v.unconvertible "PrimitiveDateTime"

end SqlMapping.Value
