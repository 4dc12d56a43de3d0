import SqlMapping.Text.Utf8

/-!
# Percent escapes

A byte is written as `%` and two hexadecimal digits. Reading is lenient: a `%` without two digits
stands for itself.
-/

namespace SqlMapping.Url

/-- The value of a hexadecimal digit, capital or small. -/
def hexValue? (c : Char) : Option Nat :=
  let n := c.toNat
  if 48 ≤ n ∧ n ≤ 57 then some (n - 48)
  else if 65 ≤ n ∧ n ≤ 70 then some (n - 55)
  else if 97 ≤ n ∧ n ≤ 102 then some (n - 87)
  else none

/-- The byte that two hexadecimal digits write. -/
def escaped? (a b : Char) : Option UInt8 :=
  match hexValue? a, hexValue? b with
  | some x, some y => some (UInt8.ofNat (16 * x + y))
  | _, _ => none

/-- The byte of the escape after a `%`, and the text after it. -/
def escape? : List Char → Option (UInt8 × List Char)
  | a :: b :: rest => (escaped? a b).map fun byte => (byte, rest)
  | _ => none

theorem length_of_escape? {cs rest : List Char} {byte : UInt8}
    (h : escape? cs = some (byte, rest)) : rest.length < cs.length := by
  unfold escape? at h
  split at h
  · obtain ⟨_, _, h⟩ := Option.map_eq_some_iff.1 h
    rw [← (Prod.mk.inj h).2]
    exact Nat.lt_add_of_pos_right Nat.two_pos
  · simp at h

/-- The bytes of a text with escapes. -/
def percentDecode (cs : List Char) : List UInt8 :=
  match cs with
  | [] => []
  | c :: rest =>
    if c = '%' then
      match _h : escape? rest with
      | some (byte, after) => byte :: percentDecode after
      | none => 37 :: percentDecode rest
    else String.utf8EncodeChar c ++ percentDecode rest
termination_by cs.length
decreasing_by
  · have := length_of_escape? _h
    simp only [List.length_cons]
    omega
  · simp
  · simp

/-- The text a component of a url stands for, if its bytes are text. -/
def unescape (s : String) : Except Text.Utf8.Fault String :=
  Text.Utf8.decode (percentDecode s.toList)

end SqlMapping.Url
