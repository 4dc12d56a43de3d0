import SqlMapping.Number.Reading
import SqlMapping.Proofs.Text.Utf8

/-! # Integers read back

The decimal digits of an integer, with a minus before those of a negative one, read as the
integer. -/

namespace SqlMapping.Number

open Text.Utf8 (byte toNat_byte encode encode_of_ascii)

theorem toNat_of_isDigit {c : Char} (h : c.isDigit) : 48 ≤ c.toNat ∧ c.toNat ≤ 57 :=
  Char.isDigit_iff_toNat.mp h

theorem toNat_byte_of_isDigit {c : Char} (h : c.isDigit) : (byte c).toNat = c.toNat := by
  have := toNat_of_isDigit h
  exact toNat_byte (by omega)

theorem isDigit_byte {c : Char} (h : c.isDigit) : isDigit (byte c) := by
  have hrange := toNat_of_isDigit h
  rw [isDigit, digit?, toNat_byte_of_isDigit h, if_pos hrange]
  rfl

theorem ofDigits_map_byte {cs : List Char} (h : ∀ c ∈ cs, c.isDigit) (n : Nat) :
    ofDigits n (cs.map byte) = Nat.ofDigitChars 10 cs n := by
  induction cs generalizing n with
  | nil => rfl
  | cons c cs ih =>
      have hc := toNat_byte_of_isDigit (h c List.mem_cons_self)
      rw [Nat.ofDigitChars_cons, ← ih fun d hd => h d (List.mem_cons_of_mem c hd), ofDigits,
        List.map_cons, List.foldl_cons, hc]
      rfl

theorem isDigit_of_mem_toDigits {n : Nat} {c : Char} (h : c ∈ Nat.toDigits 10 n) : c.isDigit :=
  Nat.isDigit_of_mem_toDigits (by omega) (by omega) h

theorem lt_of_mem_toDigits {n : Nat} {c : Char} (h : c ∈ Nat.toDigits 10 n) : c.toNat < 128 := by
  have := toNat_of_isDigit (isDigit_of_mem_toDigits h)
  omega

/-- Digits without a sign, or after one. -/
theorem readInt?_of_splitSign {bytes : List UInt8} {negative : Bool} {n : Nat} (hne : bytes ≠ [])
    (h : splitSign bytes = (negative, (Nat.toDigits 10 n).map byte)) :
    readInt? bytes = some (if negative then -(n : Int) else n) := by
  have hdigits : ((Nat.toDigits 10 n).map byte).all isDigit := by
    rw [List.all_map, List.all_eq_true]
    exact fun c hc => isDigit_byte (isDigit_of_mem_toDigits hc)
  simp only [readInt?, h, hdigits]
  rw [ofDigits_map_byte fun c hc => isDigit_of_mem_toDigits hc, Nat.ofDigitChars_ten_toDigits]
  exact if_pos ⟨hne, trivial⟩

theorem splitSign_toDigits (n : Nat) :
    splitSign ((Nat.toDigits 10 n).map byte) = (false, (Nat.toDigits 10 n).map byte) := by
  cases hd : Nat.toDigits 10 n with
  | nil => rfl
  | cons c cs =>
      have hrange := toNat_of_isDigit (isDigit_of_mem_toDigits (hd ▸ List.mem_cons_self))
      have hc := toNat_byte_of_isDigit (isDigit_of_mem_toDigits (hd ▸ List.mem_cons_self))
      have hminus : byte c ≠ 0x2D := by
        intro h
        rw [h] at hc
        exact absurd hc (by simp; omega)
      have hplus : byte c ≠ 0x2B := by
        intro h
        rw [h] at hc
        exact absurd hc (by simp; omega)
      rw [List.map_cons, splitSign, if_neg hminus, if_neg hplus]

theorem readInt?_toString (n : Int) : readInt? (encode (toString n)) = some n := by
  cases n with
  | ofNat n =>
      have htext : toString (Int.ofNat n) = String.ofList (Nat.toDigits 10 n) :=
        Nat.toString_eq_ofList_toDigits
      rw [htext, encode_of_ascii fun c hc => lt_of_mem_toDigits hc]
      have hne : (Nat.toDigits 10 n).map byte ≠ [] := by simp [Nat.toDigits_ne_nil]
      exact readInt?_of_splitSign hne (splitSign_toDigits n)
  | negSucc n =>
      have htext : toString (Int.negSucc n) = String.ofList ('-' :: Nat.toDigits 10 (n + 1)) := by
        have hminus : toString (Int.negSucc n) = "-" ++ toString (n + 1) := rfl
        rw [hminus, Nat.toString_eq_ofList_toDigits]
        exact String.toList_inj.mp (by simp)
      have hsign : splitSign (('-' :: Nat.toDigits 10 (n + 1)).map byte) =
          (true, (Nat.toDigits 10 (n + 1)).map byte) := rfl
      rw [htext, encode_of_ascii]
      · exact readInt?_of_splitSign (List.cons_ne_nil _ _) hsign
      · intro c hc
        rcases List.mem_cons.mp hc with rfl | hc
        · decide
        · exact lt_of_mem_toDigits hc

end SqlMapping.Number
