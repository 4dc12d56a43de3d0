import SqlMapping.Text.Split

/-!
# Sets of characters

Sets of characters as ascending ranges of code points, and maps on them as ranges with an offset.
Tables of Unicode properties are written in hexadecimal: `300-36f` for a range, `df` for one
character.
-/

namespace SqlMapping.Unicode

/-- The value of a hexadecimal digit. -/
def hexDigit (c : Char) : Nat :=
  if c.isDigit then c.toNat - 48 else c.toNat - 87

/-- The number small hexadecimal digits write. -/
def hexNumber (cs : List Char) : Nat :=
  cs.foldl (fun n c => 16 * n + hexDigit c) 0

/-- A range of code points. -/
structure Range where
  first : Nat
  last : Nat

/-- A range from its written form. -/
def Range.read (cs : List Char) : Range :=
  match Text.splitAt '-' cs with
  | (a, none) => ⟨hexNumber a, hexNumber a⟩
  | (a, some b) => ⟨hexNumber a, hexNumber b⟩

/-- The entries of a table, each after a blank or at the beginning of a line. -/
def entries (lines : List String) : List (List Char) :=
  (lines.flatMap fun line => line.splitOn " ").map String.toList

/-- The ranges of a table. -/
def readRanges (lines : List String) : List Range :=
  (entries lines).map Range.read

/-- Whether one of some ascending ranges holds a code point. -/
def inRanges (n : Nat) : List Range → Bool
  | [] => false
  | r :: rs => if n < r.first then false else n ≤ r.last || inRanges n rs

/-- The number decimal digits write. -/
def decimalNumber (cs : List Char) : Nat :=
  cs.foldl (fun n c => 10 * n + hexDigit c) 0

/-- The ranges of a table with a value each, such as `300-314:230`. -/
def readValues (lines : List String) : List (Range × Nat) :=
  (entries lines).map fun cs =>
    let (left, right) := Text.splitAt ':' cs
    (Range.read left, decimalNumber (right.getD []))

/-- The value of a code point, `0` outside all ranges. -/
def valueAt (n : Nat) (values : List (Range × Nat)) : Nat :=
  match values.find? fun v => v.1.first ≤ n && n ≤ v.1.last with
  | some (_, value) => value
  | none => 0

/-- Code points `step` apart and what to add to each. -/
structure Shift where
  range : Range
  step : Nat
  offset : Int

/-- A shift from its written form, such as `100-12e/2:1`. -/
def Shift.read (cs : List Char) : Shift :=
  let (left, right) := Text.splitAt ':' cs
  let (range, step) := Text.splitAt '/' left
  { range := Range.read range
    step := match step with
      | none => 1
      | some s => hexNumber s
    offset := match right with
      | some ('-' :: digits) => -(decimalNumber digits : Int)
      | some digits => (decimalNumber digits : Int)
      | none => 0 }

/-- Whether a shift moves a code point. -/
def Shift.moves (s : Shift) (n : Nat) : Bool :=
  s.range.first ≤ n && n ≤ s.range.last && (n - s.range.first) % s.step == 0

/-- The shifts of a table. -/
def readShifts (lines : List String) : List Shift :=
  (entries lines).map Shift.read

/-- A character's image under the first shift that moves it. -/
def shifted? (c : Char) (shifts : List Shift) : Option Char :=
  (shifts.find? (·.moves c.toNat)).map fun s => Char.ofNat ((c.toNat : Int) + s.offset).toNat

/-- The texts of a table of single characters, such as `df:53+53`. -/
def readImages (lines : List String) : List (Char × List Char) :=
  (entries lines).map fun cs =>
    let (left, right) := Text.splitAt ':' cs
    (Char.ofNat (hexNumber left),
      ((String.ofList (right.getD [])).splitOn "+").map fun h => Char.ofNat (hexNumber h.toList))

end SqlMapping.Unicode
