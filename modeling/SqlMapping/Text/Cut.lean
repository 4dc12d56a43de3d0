import SqlMapping.Text.Blank

/-!
# Cutting a text to a number of bytes

A cut never divides a character: it keeps the longest beginning that fits.
-/

namespace SqlMapping.Text

/-- The bytes a text takes in UTF-8. -/
def byteLength (cs : List Char) : Nat :=
  cs.foldr (fun c bytes => c.utf8Size + bytes) 0

/-- The longest beginning of a text that takes at most `max` bytes. -/
def cut (max : Nat) : List Char → List Char
  | [] => []
  | c :: cs => if c.utf8Size ≤ max then c :: cut (max - c.utf8Size) cs else []

/-- `cut` on strings. -/
def cutTo (max : Nat) (s : String) : String :=
  String.ofList (cut max s.toList)

/-- The bytes of a statement that a message quotes. -/
def quotedBytes : Nat := 497

/-- A statement as messages quote it: its first bytes, with an ellipsis when some are left out. -/
def abridged (s : String) : String :=
  String.ofList (trimEnd (cut quotedBytes s.toList)) ++
    if s.utf8ByteSize > quotedBytes then "..." else ""

end SqlMapping.Text
