import SqlMapping.Number.Binary

/-!
# Read numbers

Numbers read from the bytes of a text, which they have to fill.

An integer is digits after an optional sign, and a sign alone reads as zero. A floating number is
digits with an optional point among or beside them and an optional exponent, or a word for
infinity or for no number.
-/

namespace SqlMapping.Number

/-- The value of a byte that is a decimal digit. -/
def digit? (b : UInt8) : Option Nat :=
  if 0x30 ≤ b.toNat ∧ b.toNat ≤ 0x39 then some (b.toNat - 0x30) else none

/-- Whether a byte is a decimal digit. -/
def isDigit (b : UInt8) : Bool :=
  (digit? b).isSome

/-- The number that digits write, after the digits of `n`. -/
def ofDigits (n : Nat) (digits : List UInt8) : Nat :=
  digits.foldl (fun n b => 10 * n + (b.toNat - 0x30)) n

/-- A sign taken off the head of a text: whether it is a minus, and the rest. -/
def splitSign : List UInt8 → Bool × List UInt8
  | b :: bs => if b = 0x2D then (true, bs) else if b = 0x2B then (false, bs) else (false, b :: bs)
  | [] => (false, [])

def readInt? (bytes : List UInt8) : Option Int :=
  let (negative, digits) := splitSign bytes
  if bytes ≠ [] ∧ digits.all isDigit then
    some (if negative then -(ofDigits 0 digits) else ofDigits 0 digits)
  else none

/-- A byte that is an ASCII capital as the small letter. -/
def lower (b : UInt8) : UInt8 :=
  if 0x41 ≤ b.toNat ∧ b.toNat ≤ 0x5A then b + 0x20 else b

/-- Whether bytes are a word of small letters, in any case. -/
def isWord (word : String) (bytes : List UInt8) : Bool :=
  bytes.map lower = word.toList.map fun c => UInt8.ofNat c.toNat

/-- An exponent stops growing here: every number is zero or infinite long before. -/
def exponentLimit : Nat := 0x10000

def exponentOf (digits : List UInt8) : Nat :=
  digits.foldl (fun n b => if n < exponentLimit then 10 * n + (b.toNat - 0x30) else n) 0

/-- The exponent after the digits of a number: none written is zero. -/
def readExponent? : List UInt8 → Option Int
  | [] => some 0
  | b :: bs =>
    if lower b = 0x65 then
      let (negative, digits) := splitSign bs
      if digits ≠ [] ∧ digits.all isDigit then
        some (if negative then -(exponentOf digits) else exponentOf digits)
      else none
    else none

/-- The floating number nearest to `digits · 10 ^ exponent`. -/
def ofDecimal (t : FloatType) (negative : Bool) (digits : Nat) (exponent : Int) : Binary t :=
  let leading := (Nat.toDigits 10 digits).length + exponent
  if digits = 0 ∨ leading < -400 then Binary.ofMagnitude t negative 0
  else if 400 < leading then Binary.infinity t negative
  else Binary.ofRatio t negative (digits * Nat.pow 10 exponent.toNat)
      (Nat.pow 10 (-exponent).toNat)

/-- The floating number a text writes, to the nearest. -/
def readBinary? (t : FloatType) (bytes : List UInt8) : Option (Binary t) :=
  let (negative, body) := splitSign bytes
  if isWord "nan" body then some (Binary.nan t)
  else if isWord "inf" body || isWord "infinity" body then some (Binary.infinity t negative)
  else
    let whole := body.takeWhile isDigit
    let rest := body.dropWhile isDigit
    let (places, rest) := match rest with
      | b :: bs => if b = 0x2E then (bs.takeWhile isDigit, bs.dropWhile isDigit) else ([], b :: bs)
      | [] => ([], [])
    if whole ++ places = [] then none
    else (readExponent? rest).map fun e =>
      ofDecimal t negative (ofDigits 0 (whole ++ places)) (e - places.length)

end SqlMapping.Number
