/-!
# UTF-8

Reading bytes as text. `pieces` divides a byte sequence into characters and into the longest
beginnings of characters that go wrong; a lenient reading replaces each of the latter by U+FFFD,
a strict one reports the first.
-/

namespace SqlMapping.Text.Utf8

/-- The bytes of a text. -/
def encode (s : String) : List UInt8 :=
  s.toList.flatMap String.utf8EncodeChar

/-- A character begun: the value so far, the bytes read, the bytes owed and the range of the
next one. -/
structure Pending where
  value : Nat
  read : Nat
  owed : Nat
  low : Nat
  high : Nat

/-- A part of a byte sequence. -/
inductive Piece where
  | char (c : Char)
  /-- Bytes that begin a character and are not followed by the rest of one. -/
  | broken (bytes : Nat)
  /-- The beginning of a character at the end of the sequence. -/
  | unfinished (bytes : Nat)

/-- The number of bytes of a piece. -/
def Piece.size : Piece → Nat
  | .char c => c.utf8Size
  | .broken n => n
  | .unfinished n => n

/-- What the first byte of a character starts; `none` when no character starts with it. -/
def start (b : Nat) : Option (Char ⊕ Pending) :=
  if b < 0x80 then some (.inl (Char.ofNat b))
  else if b < 0xC2 then none
  else if b < 0xE0 then some (.inr ⟨b - 0xC0, 1, 1, 0x80, 0xBF⟩)
  else if b < 0xF0 then
    some (.inr ⟨b - 0xE0, 1, 2, if b = 0xE0 then 0xA0 else 0x80, if b = 0xED then 0x9F else 0xBF⟩)
  else if b < 0xF5 then
    some (.inr ⟨b - 0xF0, 1, 3, if b = 0xF0 then 0x90 else 0x80, if b = 0xF4 then 0x8F else 0xBF⟩)
  else none

/-- The pieces of the rest of a sequence, after the beginning of a character if there is one. -/
def piecesFrom : Option Pending → List UInt8 → List Piece
  | none, [] => []
  | some p, [] => [.unfinished p.read]
  | pending, b :: bs =>
    let restart : Unit → List Piece := fun _ =>
      match start b.toNat with
      | none => .broken 1 :: piecesFrom none bs
      | some (.inl c) => .char c :: piecesFrom none bs
      | some (.inr p) => piecesFrom (some p) bs
    match pending with
    | none => restart ()
    | some p =>
      if p.low ≤ b.toNat ∧ b.toNat ≤ p.high then
        let value := p.value * 64 + (b.toNat - 0x80)
        if p.owed ≤ 1 then .char (Char.ofNat value) :: piecesFrom none bs
        else piecesFrom (some ⟨value, p.read + 1, p.owed - 1, 0x80, 0xBF⟩) bs
      else .broken p.read :: restart ()

/-- The pieces of a byte sequence. -/
def pieces (bytes : List UInt8) : List Piece :=
  piecesFrom none bytes

/-- A byte sequence as text, each piece that is no character replaced by U+FFFD. -/
def decodeLenient (bytes : List UInt8) : String :=
  String.ofList ((pieces bytes).map fun
    | .char c => c
    | _ => Char.ofNat 0xFFFD)

/-- Where and how a byte sequence stops being text. -/
structure Fault where
  index : Nat
  /-- The bytes at fault, none when the sequence ends within a character. -/
  bytes : Option Nat
  deriving DecidableEq

/-- The wording of a fault. -/
def Fault.message : Fault → String
  | ⟨i, some n⟩ => s!"invalid utf-8 sequence of {n} bytes from index {i}"
  | ⟨i, none⟩ => s!"incomplete utf-8 byte sequence from index {i}"

/-- The text of pieces that start at byte `index`, or the first fault among them. -/
def collect (index : Nat) : List Piece → Except Fault (List Char)
  | [] => .ok []
  | .char c :: ps => (collect (index + c.utf8Size) ps).map (c :: ·)
  | .broken n :: _ => .error ⟨index, some n⟩
  | .unfinished _ :: _ => .error ⟨index, none⟩

/-- A byte sequence as text, if it is the UTF-8 of one. -/
def decode (bytes : List UInt8) : Except Fault String :=
  (collect 0 (pieces bytes)).map String.ofList

end SqlMapping.Text.Utf8
