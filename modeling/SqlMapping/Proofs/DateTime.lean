import Mathlib.Algebra.Group.Nat.Defs
import SqlMapping.DateTime
import SqlMapping.Proofs.Number.Reading

/-! # Dates read back

The text of a date reads as the date, without what is below a second. -/

namespace SqlMapping

namespace Text

theorem trimStart_of_head? {cs : List Char} {c : Char} (h : cs.head? = some c)
    (hc : isBlank c = false) : trimStart cs = cs := by
  cases cs with
  | nil => rfl
  | cons d cs =>
      obtain rfl := Option.some.inj h
      simp [trimStart, hc]

/-- A text with no blank at its ends is not trimmed. -/
theorem trim_of_ends {cs : List Char} {c d : Char} (hfirst : cs.head? = some c)
    (hc : isBlank c = false) (hlast : cs.getLast? = some d) (hd : isBlank d = false) :
    trim cs = cs := by
  rw [trim, trimStart_of_head? hfirst hc]
  have hreverse : trimStart cs.reverse = cs.reverse :=
    trimStart_of_head? (by rw [List.head?_reverse, hlast]) hd
  rw [trimEnd, show cs.reverse.dropWhile isBlank = cs.reverse from hreverse, List.reverse_reverse]

theorem isBlank_of_isDigit {c : Char} (h : c.isDigit) : isBlank c = false := by
  have := Number.toNat_of_isDigit h
  simp [isBlank]
  omega

end Text

namespace DateTime

variable {n width : Nat} {rest : List Char}

theorem takeNumber?_digits {ds : List Char} (h : ∀ c ∈ ds, c.isDigit) (rest : List Char) :
    takeNumber? ds.length (ds ++ rest) = some (Nat.ofDigitChars 10 ds 0, rest) := by
  induction ds with
  | nil => rfl
  | cons c ds ih =>
      have hvalue : Nat.ofDigitChars 10 (c :: ds) 0 =
          (c.toNat - 48) * 10 ^ ds.length + Nat.ofDigitChars 10 ds 0 := by
        rw [Nat.ofDigitChars_cons, Nat.ofDigitChars_eq_ofDigitChars_zero, Nat.mul_zero,
          Nat.zero_add, Nat.mul_comm]
        rfl
      rw [List.length_cons, List.cons_append, takeNumber?, if_pos (h c List.mem_cons_self),
        ih fun d hd => h d (List.mem_cons_of_mem c hd), hvalue]
      rfl

theorem isDigit_of_mem_padded {c : Char} (h : c ∈ padded width n) : c.isDigit := by
  rcases List.mem_append.mp h with h | h
  · rw [(List.mem_replicate.mp h).2]
    rfl
  · exact Number.isDigit_of_mem_toDigits h

theorem length_padded (hwidth : 0 < width) (h : n < 10 ^ width) :
    (padded width n).length = width := by
  have hlength := (Nat.length_toDigits_le_iff (by omega : 1 < 10) hwidth).mpr h
  rw [padded, List.length_append, List.length_replicate]
  omega

theorem takeNumber?_padded (hwidth : 0 < width) (h : n < 10 ^ width) (rest : List Char) :
    takeNumber? width (padded width n ++ rest) = some (n, rest) := by
  have hpadded : ∀ c ∈ padded width n, c.isDigit := fun c hc => isDigit_of_mem_padded hc
  have hdigits := takeNumber?_digits hpadded rest
  have hvalue : Nat.ofDigitChars 10 (padded width n) 0 = n := by
    rw [padded, Nat.ofDigitChars_append, Nat.ofDigitChars_replicate_zero, Nat.mul_zero,
      Nat.ofDigitChars_ten_toDigits]
  rwa [length_padded hwidth h, hvalue] at hdigits

theorem exists_head_padded (width n : Nat) :
    ∃ c cs, padded width n = c :: cs ∧ c.isDigit := by
  cases hp : padded width n with
  | nil => simp [padded, Nat.toDigits_ne_nil] at hp
  | cons c cs => exact ⟨c, cs, rfl, isDigit_of_mem_padded (hp ▸ List.mem_cons_self)⟩

theorem exists_getLast_padded (width n : Nat) :
    ∃ c, (padded width n).getLast? = some c ∧ c.isDigit := by
  have hne : padded width n ≠ [] := by simp [padded, Nat.toDigits_ne_nil]
  exact ⟨_, List.getLast?_eq_some_getLast hne, isDigit_of_mem_padded (List.getLast_mem hne)⟩

theorem takeYear?_of_isDigit {c : Char} (h : c.isDigit) (cs : List Char) :
    takeYear? (c :: cs) = (takeNumber? 4 (c :: cs)).map fun (n, rest) => ((n : Int), rest) := by
  unfold takeYear?
  split
  · rename_i heq
    obtain ⟨rfl, -⟩ := List.cons.inj heq
    exact absurd h (by decide)
  · rename_i heq
    obtain ⟨rfl, -⟩ := List.cons.inj heq
    exact absurd h (by decide)
  · rfl

theorem takeYear?_yearText {year : Int} (h : year.natAbs < 10 ^ 4) :
    takeYear? (yearText year ++ rest) = some (year, rest) := by
  have hnumber := takeNumber?_padded (by omega : 0 < 4) h rest
  rw [yearText]
  split
  case isTrue hneg =>
      have hyear : -(year.natAbs : Int) = year := by omega
      rw [List.cons_append, takeYear?, hnumber]
      exact congrArg (fun y => some (y, rest)) hyear
  case isFalse hpos =>
      have hyear : (year.natAbs : Int) = year := by omega
      obtain ⟨c, cs, hpadded, hc⟩ := exists_head_padded 4 year.natAbs
      rw [hpadded, List.cons_append] at hnumber ⊢
      rw [takeYear?_of_isDigit hc, hnumber]
      exact congrArg (fun y => some (y, rest)) hyear

theorem exists_head_yearText (year : Int) :
    ∃ c cs, yearText year = c :: cs ∧ Text.isBlank c = false := by
  rw [yearText]
  split
  · exact ⟨'-', _, rfl, rfl⟩
  · obtain ⟨c, cs, hpadded, hc⟩ := exists_head_padded 4 year.natAbs
    exact ⟨c, cs, hpadded, Text.isBlank_of_isDigit hc⟩

/-- A date without what is below a second. -/
def toSecond (d : DateTime) : DateTime :=
  { d with
    nanosecond := 0
    valid := by
      have := d.valid
      simp only [inRange, Bool.and_eq_true, decide_eq_true_eq] at this ⊢
      omega }

theorem daysIn_le (year : Int) (month : Nat) : daysIn year month ≤ 31 := by
  rw [daysIn.eq_def]
  split
  · split <;> omega
  all_goals omega

theorem trim_text (d : DateTime) : Text.trim d.text.toList = d.text.toList := by
  obtain ⟨c, cs, hyear, hc⟩ := exists_head_yearText d.year
  obtain ⟨z, hlast, hz⟩ := exists_getLast_padded 2 d.second
  refine Text.trim_of_ends (c := c) (d := z) ?_ hc ?_ (Text.isBlank_of_isDigit hz)
  · simp [text, hyear]
  · simp [text, List.getLast?_append, List.getLast?_cons, hlast]

theorem lt_of_mem_text {d : DateTime} {c : Char} (h : c ∈ d.text.toList) : c.toNat < 128 := by
  have hdigit : ∀ {n width}, c ∈ padded width n → c.toNat < 128 := by
    intro n width h
    have := Number.toNat_of_isDigit (isDigit_of_mem_padded h)
    omega
  have hyear : c ∈ yearText d.year → c.toNat < 128 := by
    rw [yearText]
    split
    · intro h
      rcases List.mem_cons.mp h with rfl | h
      · decide
      · exact hdigit h
    · exact hdigit
  have hafter : ∀ {n : Nat} {sep : Char}, sep.toNat < 128 → c ∈ sep :: padded 2 n →
      c.toNat < 128 := by
    intro n sep hsep h
    rcases List.mem_cons.mp h with rfl | h
    · exact hsep
    · exact hdigit h
  simp only [text, String.toList_ofList, List.mem_append] at h
  rcases h with ((((h | h) | h) | h) | h) | h
  · exact hyear h
  all_goals exact hafter (by decide) h

/-- The text of a date reads as the date to the second. -/
theorem parse?_text (d : DateTime) : parse? d.text = some d.toSecond := by
  have hvalid := d.toSecond.valid
  have hbounds := d.valid
  simp only [inRange, Bool.and_eq_true, decide_eq_true_eq] at hbounds
  have hdays := daysIn_le d.year d.month
  have hyear : d.year.natAbs < 10 ^ 4 := by omega
  have htwo : ∀ {n : Nat} (rest : List Char), n < 100 →
      takeNumber? 2 (padded 2 n ++ rest) = some (n, rest) :=
    fun rest h => takeNumber?_padded (by omega) h rest
  have hsecond : takeNumber? 2 (padded 2 d.second) = some (d.second, []) := by
    simpa using htwo (n := d.second) [] (by omega)
  rw [parse?, trim_text, text, String.toList_ofList]
  simp only [List.append_assoc, List.cons_append, takeYear?_yearText hyear, Option.bind_eq_bind,
    Option.bind_some, takeChar?, if_true, htwo _ (by omega : d.month < 100),
    htwo _ (by omega : d.day < 100), htwo _ (by omega : d.hour < 100),
    htwo _ (by omega : d.minute < 100), hsecond, List.isEmpty_nil]
  exact dif_pos hvalid

end DateTime

end SqlMapping
