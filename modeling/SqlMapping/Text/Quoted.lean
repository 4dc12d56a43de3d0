import SqlMapping.Unicode.Hidden

/-!
# Quoted text

A text between double quotes as messages show it: quotes, backslashes and characters that do not
show by themselves are escaped.
-/

namespace SqlMapping.Text

/-- A character's code point in small hexadecimal digits. -/
def hexDigits (c : Char) : List Char :=
  Nat.toDigits 16 c.toNat

def escape (c : Char) : List Char :=
  if c = '\x00' then ['\\', '0']
  else if c = '\t' then ['\\', 't']
  else if c = '\r' then ['\\', 'r']
  else if c = '\n' then ['\\', 'n']
  else if c = '\\' || c = '"' then ['\\', c]
  else if Unicode.isHidden c then
    '\\' :: 'u' :: '\x7b' :: (hexDigits c ++ ['\x7d'])
  else [c]

def quoted (s : String) : String :=
  String.ofList ('"' :: (s.toList.flatMap escape ++ ['"']))

end SqlMapping.Text
