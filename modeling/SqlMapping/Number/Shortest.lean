import SqlMapping.Number.Binary

/-!
# Shortest decimals

The fewest decimal digits that read back as a floating number, and of those the ones nearest to
it. The reals that read back as a number form an interval around it, closed when the number's
significand is even; the widest decimal grid with a point in that interval gives the digits.
-/

namespace SqlMapping.Number

/-- `digits · 10 ^ exponent`. -/
structure Decimal where
  digits : Nat
  exponent : Int
  deriving DecidableEq

/-- Which of two decimals at the same distance is taken. -/
inductive Tie where
  | up
  | even
  deriving DecidableEq

/-- A positive number and the ends of the interval that reads back as it, over `den`. -/
structure Interval where
  low : Nat
  value : Nat
  high : Nat
  den : Nat
  closed : Bool

/-- The interval of a positive finite number. Below a power of two the step is half as wide. -/
def Interval.ofBinary {t : FloatType} (x : Binary t) : Interval :=
  let m := x.significand
  let up := Nat.pow 2 (x.scale - 2).toNat
  let below := if x.fraction = 0 ∧ 1 < x.biased then 1 else 2
  { low := (4 * m - below) * up
    value := 4 * m * up
    high := (4 * m + 2) * up
    den := Nat.pow 2 (2 - x.scale).toNat
    closed := m % 2 = 0 }

/-- `10 ^ n` for a positive exponent, and what to multiply the other side by for a negative
one. -/
def powers (n : Int) : Nat × Nat :=
  (Nat.pow 10 n.toNat, Nat.pow 10 (-n).toNat)

/-- Whether `c · 10 ^ k` lies in the interval. -/
def Interval.holds (i : Interval) (k : Int) (c : Nat) : Bool :=
  let (up, down) := powers k
  let p := c * up * i.den
  let low := i.low * down
  let high := i.high * down
  if i.closed then low ≤ p && p ≤ high else low < p && p < high

/-- The nearer of the value's two neighbours on the grid of `10 ^ k` that lie in the interval. -/
def Interval.onGrid? (i : Interval) (tie : Tie) (k : Int) : Option Nat :=
  let (up, down) := powers k
  let step := up * i.den
  let c := i.value * down / step
  let r := i.value * down % step
  match i.holds k c && c != 0, i.holds k (c + 1) with
  | false, false => none
  | true, false => some c
  | false, true => some (c + 1)
  | true, true =>
    if 2 * r < step then some c
    else if step < 2 * r then some (c + 1)
    else match tie with
      | .up => some (c + 1)
      | .even => some (c + c % 2)

/-- The least `k` with `num / den < 10 ^ k`, searched upwards from `k`. -/
def placesAbove (num den : Nat) : Nat → Int → Int
  | 0, k => k
  | fuel + 1, k =>
    let (up, down) := powers k
    if num * down < den * up then k else placesAbove num den fuel (k + 1)

/-- The digits on the first of `n` grids, from `10 ^ k` downwards, that has a point in the
interval. -/
def Interval.search (i : Interval) (tie : Tie) : Nat → Int → Decimal
  | 0, k =>
    let (up, down) := powers k
    ⟨i.value * down / (up * i.den), k⟩
  | n + 1, k =>
    match i.onGrid? tie k with
    | some c => ⟨c, k⟩
    | none => i.search tie n (k - 1)

/-- A decimal without the zeros its digits end with. -/
def Decimal.reduce : Nat → Decimal → Decimal
  | 0, d => d
  | n + 1, d =>
    if d.digits % 10 = 0 ∧ d.digits ≠ 0 then reduce n ⟨d.digits / 10, d.exponent + 1⟩ else d

/-- A lower bound of the decimal places of a number, from the powers of two around it. -/
def leastPlaces {t : FloatType} (x : Binary t) : Int :=
  ((x.significand.log2 : Int) + x.scale) * 30103 / 100000 - 1

/-- The shortest decimal of a positive finite number. -/
def shortest {t : FloatType} (tie : Tie) (x : Binary t) : Decimal :=
  let i := Interval.ofBinary x
  let places := placesAbove i.value i.den 4 (leastPlaces x)
  (i.search tie t.decimalDigits (places - 1)).reduce t.decimalDigits

end SqlMapping.Number
