import SqlMapping.Text.Split
import SqlMapping.Url.Fault
import SqlMapping.Url.Percent

/-!
# Numeric hosts

Addresses of four and of sixteen bytes, in all their spellings, and the one spelling they are
written in.
-/

namespace SqlMapping.Url

/-- The number that digits to a base write, if there are only such digits. -/
def digits? (base : Nat) (cs : List Char) : Option Nat :=
  cs.foldl (fun n c => n.bind fun n => (hexValue? c).bind fun d =>
    if d < base then some (base * n + d) else none) (some 0)

/-- The number a part of a four byte address writes: octal after `0`, hexadecimal after `0x`. -/
def addressPart? : List Char → Option Nat
  | [] => none
  | '0' :: 'x' :: cs => digits? 16 cs
  | '0' :: 'X' :: cs => digits? 16 cs
  | '0' :: c :: cs => digits? 8 (c :: cs)
  | cs => digits? 10 cs

/-- The parts of a name, without the empty one after a last dot. -/
def labels (name : List Char) : List (List Char) :=
  let parts := Text.splitAll '.' name
  if parts.getLast? = some [] then parts.dropLast else parts

/-- Whether the last part of a name is a number, so that the name has to be an address. -/
def endsInNumber (name : List Char) : Bool :=
  match (labels name).getLast? with
  | none => false
  | some part => !part.isEmpty && (part.all Char.isDigit || (addressPart? part).isSome)

/-- The bytes some numbers write: each but the last is a byte, the last fills what is left. -/
def fourBytes? (numbers : List Nat) : Option (List Nat) :=
  match numbers.getLast? with
  | none => none
  | some n =>
    let width := 5 - numbers.length
    if numbers.length ≤ 4 ∧ numbers.dropLast.all (· < 256) ∧ n < Nat.pow 256 width then
      some (numbers.dropLast ++ (List.range width).reverse.map fun i => n / Nat.pow 256 i % 256)
    else none

/-- The bytes of a four byte address in any of its spellings. -/
def readFour? (name : List Char) : Option (List Nat) :=
  ((labels name).mapM addressPart?).bind fourBytes?

/-- The spelling of a four byte address. -/
def writeFour (bytes : List Nat) : String :=
  ".".intercalate (bytes.map toString)

/-- The pieces of a sixteen byte address so far, and how many of them stand before the gap; the
gap counts as a piece. -/
structure Pieces where
  pieces : List Nat := []
  gap : Option Nat := none

namespace Pieces

def push (p : Pieces) (piece : Nat) : Pieces :=
  { p with pieces := p.pieces ++ [piece] }

/-- The gap, of which there is one at the most. -/
def openGap? (p : Pieces) : Option Pieces :=
  match p.gap with
  | some _ => none
  | none => some { pieces := p.pieces ++ [0], gap := some (p.pieces.length + 1) }

/-- The eight pieces of an address, the gap filled. -/
def complete? (p : Pieces) : Option (List Nat) :=
  match p.gap with
  | some n =>
    if p.pieces.length ≤ 8 then
      some (p.pieces.take n ++ List.replicate (8 - p.pieces.length) 0 ++ p.pieces.drop n)
    else none
  | none => if p.pieces.length = 8 then some p.pieces else none

end Pieces

/-- A byte in decimal, without zeros before it. -/
def decimalByte? (cs : List Char) : Option Nat :=
  match cs with
  | [] => none
  | '0' :: _ :: _ => none
  | cs =>
    match digits? 10 cs with
    | some n => if n < 256 then some n else none
    | none => none

/-- The two pieces of four decimal bytes at the end of an address. -/
def decimalTail? (p : Pieces) (cs : List Char) : Option Pieces :=
  match (Text.splitAll '.' cs).mapM decimalByte? with
  | some [a, b, c, d] =>
    if p.pieces.length ≤ 6 then some ((p.push (256 * a + b)).push (256 * c + d)) else none
  | _ => none

/-- The hexadecimal digits that begin a text, four at the most, as a number, how many there are,
and the rest of the text. -/
def hexPiece : Nat → List Char → Nat × Nat × List Char
  | room + 1, c :: cs =>
    match hexValue? c with
    | some d =>
      let (n, count, rest) := hexPiece room cs
      (d * Nat.pow 16 count + n, count + 1, rest)
    | none => (0, 0, c :: cs)
  | _, cs => (0, 0, cs)

theorem length_hexPiece (room : Nat) (cs : List Char) :
    (hexPiece room cs).2.2.length ≤ cs.length := by
  fun_induction hexPiece room cs with
  | case1 room c cs d h n count rest e ih =>
    rw [e] at ih
    simp only [List.length_cons]
    exact Nat.le_succ_of_le ih
  | case2 => exact Nat.le_refl _
  | case3 => exact Nat.le_refl _

/-- The pieces of the rest of an address. -/
def morePieces? (p : Pieces) (cs : List Char) : Option Pieces :=
  match cs with
  | [] => some p
  | c :: rest =>
    if p.pieces.length = 8 then none
    else if c = ':' then (p.openGap?).bind fun p => morePieces? p rest
    else
      match _h : hexPiece 4 (c :: rest) with
      | (n, _, []) => some (p.push n)
      | (n, count, d :: after) =>
        if d = '.' then if count = 0 then none else decimalTail? p (c :: rest)
        else if d = ':' ∧ after ≠ [] then morePieces? (p.push n) after
        else none
termination_by cs.length
decreasing_by
  · simp
  · have := length_hexPiece 4 (c :: rest)
    rw [_h] at this
    simp only [List.length_cons] at this ⊢
    omega

/-- The eight pieces of a sixteen byte address in any of its spellings. -/
def readSixteen? (cs : List Char) : Option (List Nat) :=
  let pieces := match cs with
    | ':' :: ':' :: rest => ((({} : Pieces).openGap?).bind fun p => morePieces? p rest)
    | ':' :: _ => none
    | [] => none
    | [_] => none
    | cs => morePieces? {} cs
  pieces.bind Pieces.complete?

/-- The number of zeros that begin a list. -/
def leadingZeros (pieces : List Nat) : Nat :=
  (pieces.takeWhile (· = 0)).length

/-- The place and the length of the longest run of zeros, the first of several. -/
def longestZeros (pieces : List Nat) : Nat × Nat :=
  (List.range pieces.length).foldl (fun best i =>
    let n := leadingZeros (pieces.drop i)
    if best.2 < n then (i, n) else best) (0, 0)

def writePieces (pieces : List Nat) : String :=
  ":".intercalate (pieces.map fun n => String.ofList (Nat.toDigits 16 n))

/-- The spelling of a sixteen byte address, its longest run of zeros left out. -/
def writeSixteen (pieces : List Nat) : String :=
  let (place, n) := longestZeros pieces
  if n < 2 then writePieces pieces
  else writePieces (pieces.take place) ++ "::" ++ writePieces (pieces.drop (place + n))

end SqlMapping.Url
