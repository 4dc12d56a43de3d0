import SqlMapping.Text.Blank

/-!
# Dates with a time of day

A date of the Gregorian calendar, extended to years on both sides of our era, with a time of day
down to the nanosecond. Columns hold it as `year-month-day hour:minute:second`.
-/

namespace SqlMapping

namespace DateTime

def isLeap (year : Int) : Bool :=
  year % 4 == 0 && (year % 100 != 0 || year % 400 == 0)

def daysIn (year : Int) (month : Nat) : Nat :=
  match month with
  | 2 => if isLeap year then 29 else 28
  | 4 | 6 | 9 | 11 => 30
  | _ => 31

/-- Whether fields name a point of the calendar. -/
def inRange (year : Int) (month day hour minute second nanosecond : Nat) : Bool :=
  -9999 ≤ year && year ≤ 9999 && 1 ≤ month && month ≤ 12 && 1 ≤ day && day ≤ daysIn year month &&
    hour < 24 && minute < 60 && second < 60 && nanosecond < 1000000000

end DateTime

/-- A date with a time of day. -/
structure DateTime where
  year : Int
  month : Nat
  day : Nat
  hour : Nat
  minute : Nat
  second : Nat
  nanosecond : Nat := 0
  valid : DateTime.inRange year month day hour minute second nanosecond = true := by decide
  deriving DecidableEq

namespace DateTime

/-- The zero time: it means that a time is not set. -/
def zero : DateTime :=
  { year := 1, month := 1, day := 1, hour := 0, minute := 0, second := 0 }

instance : Inhabited DateTime := ⟨zero⟩

/-- The date with these fields, if there is one. -/
def ofFields? (year : Int) (month day hour minute second nanosecond : Nat) : Option DateTime :=
  if h : inRange year month day hour minute second nanosecond = true then
    some ⟨year, month, day, hour, minute, second, nanosecond, h⟩
  else none

/-- A number in at least `width` digits. -/
def padded (width n : Nat) : List Char :=
  let digits := Nat.toDigits 10 n
  List.replicate (width - digits.length) '0' ++ digits

/-- A year in four digits, a minus before one that precedes the year zero. -/
def yearText (year : Int) : List Char :=
  if year < 0 then '-' :: padded 4 year.natAbs else padded 4 year.natAbs

/-- The text of a column that holds the date; what is below a second is left out. -/
def text (d : DateTime) : String :=
  String.ofList <|
    yearText d.year ++ '-' :: padded 2 d.month ++ '-' :: padded 2 d.day ++ ' ' ::
      padded 2 d.hour ++ ':' :: padded 2 d.minute ++ ':' :: padded 2 d.second

/-- The date down to the nanosecond, as messages show it: the hour takes the digits it needs, and
the fraction of a second at least one. -/
def precise (d : DateTime) : String :=
  let fraction := ((padded 9 d.nanosecond).reverse.dropWhile (· == '0')).reverse
  String.ofList <|
    yearText d.year ++ '-' :: padded 2 d.month ++ '-' :: padded 2 d.day ++ ' ' ::
      padded 1 d.hour ++ ':' :: padded 2 d.minute ++ ':' :: padded 2 d.second ++
      '.' :: if fraction.isEmpty then ['0'] else fraction

/-- The number that exactly `width` digits write at the head of a text, and the rest. -/
def takeNumber? : (width : Nat) → List Char → Option (Nat × List Char)
  | 0, cs => some (0, cs)
  | width + 1, cs =>
    match cs with
    | [] => none
    | c :: cs =>
      if c.isDigit then
        (takeNumber? width cs).map fun (n, rest) => ((c.toNat - 48) * Nat.pow 10 width + n, rest)
      else none

/-- A year of four digits, after an optional sign. -/
def takeYear? : List Char → Option (Int × List Char)
  | '-' :: cs => (takeNumber? 4 cs).map fun (n, rest) => (-(n : Int), rest)
  | '+' :: cs => (takeNumber? 4 cs).map fun (n, rest) => ((n : Int), rest)
  | cs => (takeNumber? 4 cs).map fun (n, rest) => ((n : Int), rest)

/-- A text after the character it has to start with. -/
def takeChar? (c : Char) : List Char → Option (List Char)
  | [] => none
  | d :: cs => if d = c then some cs else none

/-- The date a text writes, between blanks. -/
def parse? (s : String) : Option DateTime := do
  let (year, cs) ← takeYear? (Text.trim s.toList)
  let (month, cs) ← takeNumber? 2 (← takeChar? '-' cs)
  let (day, cs) ← takeNumber? 2 (← takeChar? '-' cs)
  let (hour, cs) ← takeNumber? 2 (← takeChar? ' ' cs)
  let (minute, cs) ← takeNumber? 2 (← takeChar? ':' cs)
  let (second, cs) ← takeNumber? 2 (← takeChar? ':' cs)
  if cs.isEmpty then ofFields? year month day hour minute second 0 else none

end DateTime

end SqlMapping
