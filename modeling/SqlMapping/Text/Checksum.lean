import SqlMapping.Text.Blank
import SqlMapping.Text.Utf8

/-!
# Checksums

The cyclic redundancy check of thirty-two bits with the reflected polynomial `0xEDB88320`, which
tells statements apart.
-/

namespace SqlMapping.Text

/-- One bit of the division by the polynomial. -/
def checksumBit (r : UInt32) : UInt32 :=
  if r &&& 1 = 1 then (r >>> 1) ^^^ 0xEDB88320 else r >>> 1

def checksumByte (r : UInt32) (b : UInt8) : UInt32 :=
  (List.range 8).foldl (fun r _ => checksumBit r) (r ^^^ b.toUInt32)

def checksumOf (bytes : List UInt8) : UInt32 :=
  bytes.foldl checksumByte 0xFFFFFFFF ^^^ 0xFFFFFFFF

/-- The checksum of a statement without the blanks around it. -/
def checksum (sql : String) : UInt32 :=
  checksumOf (Utf8.encode (trimmed sql))

end SqlMapping.Text
