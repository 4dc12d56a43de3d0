import SqlMapping.Text.Utf8

/-! # Texts of ASCII characters

Each character of such a text is one byte, and the bytes read as the text again. -/

namespace SqlMapping.Text.Utf8

/-- The byte of an ASCII character. -/
def byte (c : Char) : UInt8 :=
  UInt8.ofNat c.toNat

theorem toNat_byte {c : Char} (h : c.toNat < 128) : (byte c).toNat = c.toNat := by
  rw [byte, UInt8.toNat_ofNat']
  omega

theorem utf8EncodeChar_of_ascii {c : Char} (h : c.toNat < 128) :
    String.utf8EncodeChar c = [byte c] := by
  have hle : c.val.toNat ≤ 127 := Nat.le_of_lt_succ h
  rw [String.utf8EncodeChar, if_pos hle]
  rfl

theorem encode_of_ascii {cs : List Char} (h : ∀ c ∈ cs, c.toNat < 128) :
    encode (String.ofList cs) = cs.map byte := by
  rw [encode, String.toList_ofList]
  induction cs with
  | nil => rfl
  | cons c cs ih =>
      rw [List.flatMap_cons, utf8EncodeChar_of_ascii (h c List.mem_cons_self),
        ih fun d hd => h d (List.mem_cons_of_mem c hd)]
      rfl

theorem pieces_of_ascii {cs : List Char} (h : ∀ c ∈ cs, c.toNat < 128) :
    pieces (cs.map byte) = cs.map .char := by
  induction cs with
  | nil => rfl
  | cons c cs ih =>
      have hc := h c List.mem_cons_self
      have hstart : start (byte c).toNat = some (.inl c) := by
        rw [toNat_byte hc, start, if_pos hc, Char.ofNat_toNat]
      rw [pieces, List.map_cons, piecesFrom]
      simp only [hstart]
      rw [List.map_cons]
      exact congrArg _ (ih fun d hd => h d (List.mem_cons_of_mem c hd))

theorem collect_chars (index : Nat) (cs : List Char) : collect index (cs.map .char) = .ok cs := by
  induction cs generalizing index with
  | nil => rfl
  | cons c cs ih => rw [List.map_cons, collect, ih, Except.map]

theorem decode_encode_of_ascii {cs : List Char} (h : ∀ c ∈ cs, c.toNat < 128) :
    decode (encode (String.ofList cs)) = .ok (String.ofList cs) := by
  rw [encode_of_ascii h, decode, pieces_of_ascii h, collect_chars, Except.map]

end SqlMapping.Text.Utf8
