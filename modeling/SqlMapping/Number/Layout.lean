import SqlMapping.Number.Shortest

/-!
# Written numbers

How a floating number is written: its shortest digits, positionally or with an exponent.
-/

namespace SqlMapping.Number

/-- The choices of one way to write floating numbers. -/
structure Layout where
  /-- The least and greatest exponent of the first digit that are written positionally; without
  bounds every number is. -/
  positional : Option (Int × Int)
  /-- A positional integer ends in `.0`. -/
  pointed : Bool
  tie : Tie

def Decimal.text (d : Decimal) : List Char :=
  Nat.toDigits 10 d.digits

/-- The exponent of a decimal's first digit. -/
def Decimal.leading (d : Decimal) : Int :=
  d.exponent + d.text.length - 1

/-- A decimal without an exponent. -/
def Decimal.positional (d : Decimal) (pointed : Bool) : List Char :=
  let digits := d.text
  if 0 ≤ d.exponent then
    digits ++ List.replicate d.exponent.toNat '0' ++ if pointed then ['.', '0'] else []
  else
    let places := (-d.exponent).toNat
    if places < digits.length then
      digits.take (digits.length - places) ++ '.' :: digits.drop (digits.length - places)
    else '0' :: '.' :: List.replicate (places - digits.length) '0' ++ digits

/-- A decimal with one digit before the point and an exponent. -/
def Decimal.scientific (d : Decimal) : List Char :=
  let mantissa := match d.text with
    | [] => []
    | [c] => [c]
    | c :: cs => c :: '.' :: cs
  mantissa ++ 'e' :: (toString d.leading).toList

def Layout.decimal (l : Layout) (d : Decimal) : List Char :=
  match l.positional with
  | none => d.positional l.pointed
  | some (low, high) =>
    if low ≤ d.leading ∧ d.leading ≤ high then d.positional l.pointed else d.scientific

def Layout.write {t : FloatType} (l : Layout) (x : Binary t) : String :=
  if x.isNaN then "NaN"
  else
    let body :=
      if x.isInfinite then "inf".toList
      else if x.isZero then if l.pointed then "0.0".toList else ['0']
      else l.decimal (shortest l.tie x)
    String.ofList (if x.isNegative then '-' :: body else body)

end SqlMapping.Number
