import SqlMapping.Unicode.Direction

/-!
# Direction of labels

Where a domain name has letters written from the right, each label keeps to one direction, so
that the labels stay apart from each other when the name is shown.
-/

namespace SqlMapping.Url.Domain

open Unicode (Direction directionOf)

/-- Whether a label has characters written from the right. -/
def turns (label : List Char) : Bool :=
  label.any fun c => directionOf c = .right || directionOf c = .arabicNumber

/-- A label without the marks at its end, as directions. -/
def outline (label : List Char) : List Direction :=
  ((label.map directionOf).reverse.dropWhile (· = .attached)).reverse

/-- Whether a label of some directions is written from the left throughout. -/
def runsRight (ds : List Direction) : Bool :=
  let within : List Direction := [.left, .europeanNumber, .neutral, .attached]
  let last : List Direction := [.left, .europeanNumber]
  ds.all (· ∈ within) && ds.getLast?.all (· ∈ last)

/-- Whether a label of some directions is written from the right throughout, with digits of one
kind. -/
def runsLeft (ds : List Direction) : Bool :=
  let within : List Direction := [.right, .arabicNumber, .europeanNumber, .neutral, .attached]
  let last : List Direction := [.right, .arabicNumber, .europeanNumber]
  ds.all (· ∈ within) && ds.getLast?.all (· ∈ last) &&
    !(ds.contains .arabicNumber && ds.contains .europeanNumber)

/-- Whether a label keeps to the direction of its first character. -/
def keepsDirection (label : List Char) : Bool :=
  match label.map directionOf with
  | [] => true
  | .left :: _ => runsRight (outline label)
  | .right :: _ => runsLeft (outline label)
  | _ => false

end SqlMapping.Url.Domain
