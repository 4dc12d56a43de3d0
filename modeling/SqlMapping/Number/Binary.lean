/-!
# Binary floating numbers

A floating number is the bit pattern of its interchange format: a sign, a biased exponent and a
fraction. A finite pattern stands for `± significand · 2 ^ scale`, and `ofRatio` gives the
pattern nearest to a fraction, ties going to the even one.
-/

namespace SqlMapping

/-- The two floating formats. -/
inductive FloatType where
  | single
  | double
  deriving DecidableEq, Inhabited

namespace FloatType

def fractionBits : FloatType → Nat
  | single => 23
  | double => 52

def exponentBits : FloatType → Nat
  | single => 8
  | double => 11

def width (t : FloatType) : Nat :=
  1 + t.exponentBits + t.fractionBits

/-- What is added to the exponent of a number with one digit before the point. -/
def bias (t : FloatType) : Nat :=
  Nat.pow 2 (t.exponentBits - 1) - 1

/-- The scale of the smallest numbers. -/
def leastScale (t : FloatType) : Int :=
  1 - (t.bias : Int) - t.fractionBits

/-- The pattern of infinity without its sign. -/
def infinityBits (t : FloatType) : Nat :=
  (Nat.pow 2 t.exponentBits - 1) * Nat.pow 2 t.fractionBits

/-- The fewest decimal digits that tell any two numbers apart. -/
def decimalDigits : FloatType → Nat
  | single => 9
  | double => 17

end FloatType

/-- A floating number as its bit pattern. -/
structure Binary (t : FloatType) where
  bits : BitVec t.width
  deriving DecidableEq

namespace Binary

variable {t : FloatType}

/-- The pattern without its sign. -/
def magnitude (x : Binary t) : Nat :=
  x.bits.toNat % Nat.pow 2 (t.width - 1)

def isNegative (x : Binary t) : Bool :=
  Nat.pow 2 (t.width - 1) ≤ x.bits.toNat

def isNaN (x : Binary t) : Bool :=
  t.infinityBits < x.magnitude

def isInfinite (x : Binary t) : Bool :=
  x.magnitude == t.infinityBits

/-- Both zeros are zero. -/
def isZero (x : Binary t) : Bool :=
  x.magnitude == 0

/-- The pattern with a sign and a magnitude. -/
def ofMagnitude (t : FloatType) (negative : Bool) (magnitude : Nat) : Binary t :=
  ⟨BitVec.ofNat t.width (magnitude + if negative then Nat.pow 2 (t.width - 1) else 0)⟩

def infinity (t : FloatType) (negative : Bool) : Binary t :=
  ofMagnitude t negative t.infinityBits

def nan (t : FloatType) : Binary t :=
  ofMagnitude t false (t.infinityBits + Nat.pow 2 (t.fractionBits - 1))

def zero (t : FloatType) : Binary t :=
  ofMagnitude t false 0

/-- The biased exponent. -/
def biased (x : Binary t) : Nat :=
  x.magnitude / Nat.pow 2 t.fractionBits

/-- The bits below the exponent. -/
def fraction (x : Binary t) : Nat :=
  x.magnitude % Nat.pow 2 t.fractionBits

/-- The integer a finite number is a power of two times. -/
def significand (x : Binary t) : Nat :=
  if x.biased = 0 then x.fraction else x.fraction + Nat.pow 2 t.fractionBits

/-- The exponent of that power of two. -/
def scale (x : Binary t) : Int :=
  t.leastScale + (x.biased - 1 : Nat)

/-- Equality of numbers: NaN equals nothing, and the two zeros are equal. -/
def equal (x y : Binary t) : Bool :=
  !x.isNaN && !y.isNaN && (x.bits == y.bits || (x.isZero && y.isZero))

/-- The whole part of `num / den / 2 ^ e` and twice the remainder over the divisor, compared by
`roundAt`. -/
def divideAt (num den : Nat) (e : Int) : Nat × Nat × Nat :=
  let n := num * Nat.pow 2 (-e).toNat
  let d := den * Nat.pow 2 e.toNat
  (n / d, n % d, d)

/-- `num / den / 2 ^ e` rounded to an integer, half of one to the even neighbour. -/
def roundAt (num den : Nat) (e : Int) : Nat :=
  let (q, r, d) := divideAt num den e
  if 2 * r < d then q else if d < 2 * r then q + 1 else q + q % 2

/-- The number nearest to a fraction; beyond the largest number by half a step or more it is
infinite. -/
def ofRatio (t : FloatType) (negative : Bool) (num den : Nat) : Binary t :=
  if num = 0 then ofMagnitude t negative 0
  else
    let guess : Int := (num.log2 : Int) - den.log2 - t.fractionBits
    let e := max t.leastScale guess
    let e :=
      if (divideAt num den e).1 < Nat.pow 2 t.fractionBits ∧ t.leastScale < e then e - 1 else e
    let bits := (e - t.leastScale).toNat * Nat.pow 2 t.fractionBits + roundAt num den e
    ofMagnitude t negative (min bits t.infinityBits)

/-- The number nearest to an integer. -/
def ofInt (t : FloatType) (n : Int) : Binary t :=
  ofRatio t (n < 0) n.natAbs 1

/-- The nearest number of another format. -/
def convert (s : FloatType) (x : Binary t) : Binary s :=
  if x.isNaN then nan s
  else if x.isInfinite then infinity s x.isNegative
  else
    ofRatio s x.isNegative (x.significand * Nat.pow 2 x.scale.toNat)
      (Nat.pow 2 (-x.scale).toNat)

end Binary

end SqlMapping
