import SqlMapping.Dialect
import SqlMapping.Text.Utf8

/-! # Escaping by positions

A name is escaped by copying its bytes in stretches: each quote ends the stretch before it and
starts a new one behind it. This gives the bytes of the name with its quotes doubled. -/

namespace SqlMapping.Dialect

def bytes (cs : List Char) : List UInt8 :=
  cs.flatMap String.utf8EncodeChar

theorem bytes_toList (s : String) : bytes s.toList = Text.Utf8.encode s := rfl

/-- Copies a text from a position on, with another text in place of a character. The characters
that are left start at byte `i`. -/
def escapeFrom (search : Char) (replacement text : List UInt8) :
    (position i : Nat) → List Char → List UInt8
  | position, _, [] => text.drop position
  | position, i, c :: cs =>
    let next := i + c.utf8Size
    if c = search then
      (text.take i).drop position ++ replacement ++
        escapeFrom search replacement text next next cs
    else escapeFrom search replacement text position next cs

/-- The stretch that is not copied yet lies between the position and the characters left. -/
theorem escapeFrom_eq (search : Char) (replacement : List Char) (copied stretch : List UInt8)
    (cs : List Char) :
    escapeFrom search (bytes replacement) (copied ++ stretch ++ bytes cs) copied.length
        (copied ++ stretch).length cs =
      stretch ++ bytes (replaced search replacement cs) := by
  -- Both parts before the characters left vary: a quote moves the stretch into what is copied.
  induction cs generalizing copied stretch with
  | nil => simp [escapeFrom, replaced, bytes]
  | cons c cs ih =>
      have hnext : (copied ++ stretch).length + c.utf8Size =
          (copied ++ stretch ++ String.utf8EncodeChar c).length := by
        simp [Nat.add_assoc]
      have htext : copied ++ stretch ++ bytes (c :: cs) =
          copied ++ stretch ++ String.utf8EncodeChar c ++ bytes cs := by
        simp [bytes]
      by_cases hc : c = search
      · have ih := ih (copied ++ stretch ++ String.utf8EncodeChar c) []
        rw [List.append_nil, List.nil_append] at ih
        have hstretch : ((copied ++ stretch ++ bytes (c :: cs)).take
            (copied ++ stretch).length).drop copied.length = stretch := by
          rw [List.take_left, List.drop_left]
        simp only [escapeFrom, if_pos hc]
        rw [hstretch, hnext, htext, ih]
        simp [replaced, bytes, hc]
      · have ih := ih copied (stretch ++ String.utf8EncodeChar c)
        rw [← List.append_assoc] at ih
        simp only [escapeFrom, if_neg hc]
        rw [hnext, htext, ih]
        simp [replaced, bytes, hc]

def quotedBytes (d : Dialect) (name : String) : List UInt8 :=
  String.utf8EncodeChar d.quote ++
    escapeFrom d.quote (bytes [d.quote, d.quote]) (Text.Utf8.encode name) 0 0 name.toList ++
      String.utf8EncodeChar d.quote

theorem quotedBytes_eq (d : Dialect) (name : String) :
    d.quotedBytes name = Text.Utf8.encode (String.ofList (d.quoted name)) := by
  have h := escapeFrom_eq d.quote [d.quote, d.quote] [] [] name.toList
  rw [List.nil_append, List.nil_append, List.nil_append, bytes_toList] at h
  have hencode : Text.Utf8.encode (String.ofList (d.quoted name)) = bytes (d.quoted name) := by
    rw [← bytes_toList, String.toList_ofList]
  rw [quotedBytes, hencode]
  simpa [quoted, bytes] using h

end SqlMapping.Dialect
