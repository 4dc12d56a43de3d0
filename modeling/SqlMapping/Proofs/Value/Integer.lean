import Mathlib.Data.List.Induction
import Mathlib.Data.Nat.Digits.Defs
import SqlMapping.Proofs.Number.Reading
import SqlMapping.Value.Convert

/-! # Integers out of values

A value converts to an integer type if it states a number within the range of the type: by being
this number, as a truth value, or with bytes that are its numeral. There is one exception: a sign
alone is no numeral, and converts to zero. -/

namespace SqlMapping

/-! ## Numerals -/

namespace Number

/-- Decimal digits, one at least. -/
def AreDigits (bytes : List UInt8) : Prop :=
  bytes ≠ [] ∧ ∀ b ∈ bytes, 0x30 ≤ b.toNat ∧ b.toNat ≤ 0x39

/-- The number that digits stand for by their places, with the ones at the end. -/
def placeValue (digits : List UInt8) : Nat :=
  Nat.ofDigits 10 (digits.reverse.map fun b => b.toNat - 0x30)

/-- Bytes that write an integer: digits after an optional sign, and nothing else. -/
inductive Numeral : List UInt8 → Int → Prop
  | unsigned {digits : List UInt8} (h : AreDigits digits) : Numeral digits (placeValue digits)
  | plus {digits : List UInt8} (h : AreDigits digits) :
      Numeral (0x2B :: digits) (placeValue digits)
  | minus {digits : List UInt8} (h : AreDigits digits) :
      Numeral (0x2D :: digits) (-(placeValue digits))

/-- A sign that no digit follows. -/
def IsSign (bytes : List UInt8) : Prop :=
  bytes = [0x2B] ∨ bytes = [0x2D]

variable {bytes digits : List UInt8} {n : Int}

theorem isDigit_iff {b : UInt8} : isDigit b ↔ 0x30 ≤ b.toNat ∧ b.toNat ≤ 0x39 := by
  unfold isDigit digit?
  split <;> simp [*]

theorem ofDigits_zero (digits : List UInt8) : ofDigits 0 digits = placeValue digits := by
  induction digits using List.reverseRecOn with
  | nil => rfl
  | append_singleton ds d ih =>
      have hlast : ofDigits 0 (ds ++ [d]) = 10 * ofDigits 0 ds + (d.toNat - 0x30) :=
        List.foldl_append
      rw [hlast, ih, placeValue, placeValue, List.reverse_append, List.reverse_singleton,
        List.singleton_append, List.map_cons, Nat.ofDigits_cons, Nat.add_comm]

/-- A sign is taken off the head of a text that has one there. -/
theorem splitSign_cases (bytes : List UInt8) :
    (∃ digits, bytes = 0x2D :: digits ∧ splitSign bytes = (true, digits)) ∨
      (∃ digits, bytes = 0x2B :: digits ∧ splitSign bytes = (false, digits)) ∨
      splitSign bytes = (false, bytes) := by
  cases bytes with
  | nil => exact .inr (.inr rfl)
  | cons b bs =>
      by_cases hminus : b = 0x2D
      · exact .inl ⟨bs, hminus ▸ rfl, if_pos hminus⟩
      · by_cases hplus : b = 0x2B
        · exact .inr (.inl ⟨bs, hplus ▸ rfl, (if_neg hminus).trans (if_pos hplus)⟩)
        · exact .inr (.inr ((if_neg hminus).trans (if_neg hplus)))

theorem splitSign_of_areDigits (h : AreDigits digits) : splitSign digits = (false, digits) := by
  rcases splitSign_cases digits with ⟨ds, rfl, -⟩ | ⟨ds, rfl, -⟩ | hsplit
  · exact absurd (h.2 _ List.mem_cons_self).1 (by decide)
  · exact absurd (h.2 _ List.mem_cons_self).1 (by decide)
  · exact hsplit

theorem readInt?_eq_some {negative : Bool} (hne : bytes ≠ [])
    (hsplit : splitSign bytes = (negative, digits)) :
    readInt? bytes = some n ↔ (∀ b ∈ digits, 0x30 ≤ b.toNat ∧ b.toNat ≤ 0x39) ∧
      n = if negative then -(placeValue digits : Int) else placeValue digits := by
  have hall : (digits.all isDigit = true) ↔ ∀ b ∈ digits, 0x30 ≤ b.toNat ∧ b.toNat ≤ 0x39 := by
    simp [isDigit_iff]
  rw [readInt?, hsplit]
  simp only [hne, hall, ofDigits_zero, ne_eq, not_false_eq_true, true_and,
    Option.ite_none_right_eq_some, Option.some.injEq, eq_comm (a := n)]

/-- What reads as an integer is its numeral, or a sign alone. -/
theorem readInt?_eq_some_iff :
    readInt? bytes = some n ↔ Numeral bytes n ∨ IsSign bytes ∧ n = 0 := by
  constructor
  · intro h
    have hne : bytes ≠ [] := by
      rintro rfl
      cases h
    rcases splitSign_cases bytes with ⟨ds, rfl, hsplit⟩ | ⟨ds, rfl, hsplit⟩ | hsplit
    all_goals
      obtain ⟨hdigits, rfl⟩ := (readInt?_eq_some hne hsplit).mp h
    · rcases eq_or_ne ds [] with rfl | hds
      · exact .inr ⟨.inr rfl, rfl⟩
      · exact .inl (.minus ⟨hds, hdigits⟩)
    · rcases eq_or_ne ds [] with rfl | hds
      · exact .inr ⟨.inl rfl, rfl⟩
      · exact .inl (.plus ⟨hds, hdigits⟩)
    · exact .inl (.unsigned ⟨hne, hdigits⟩)
  · rintro (hnumeral | ⟨rfl | rfl, rfl⟩)
    · cases hnumeral with
      | unsigned h => exact (readInt?_eq_some h.1 (splitSign_of_areDigits h)).mpr ⟨h.2, rfl⟩
      | plus h => exact (readInt?_eq_some (List.cons_ne_nil _ _) rfl).mpr ⟨h.2, rfl⟩
      | minus h => exact (readInt?_eq_some (List.cons_ne_nil _ _) rfl).mpr ⟨h.2, rfl⟩
    · rfl
    · rfl

theorem IsSign.not_numeral (h : IsSign bytes) : ¬ Numeral bytes n := by
  have hempty : ¬ AreDigits [] := fun h => h.1 rfl
  intro hnumeral
  rcases h with rfl | rfl
  all_goals cases hnumeral with
    | unsigned h => exact absurd (h.2 _ List.mem_cons_self).1 (by decide)
    | _ h => exact hempty h

end Number

/-! ## Values -/

namespace Value

/-- The integer that a value states. -/
inductive States : Value → Int → Prop
  | integer {t : IntType} (n : Bounded t) : States (.integer t (some n)) n.val
  | boolean (b : Bool) : States (.boolean (some b)) (if b then 1 else 0)
  | text {s : String} {n : Int} (h : Number.Numeral (Text.Utf8.encode s) n) :
      States (.text (some s)) n
  | blob {bytes : List UInt8} {n : Int} (h : Number.Numeral bytes n) :
      States (.blob (some bytes)) n

/-- A text or a blob that is a sign and nothing else. -/
inductive IsSign : Value → Prop
  | text {s : String} (h : Number.IsSign (Text.Utf8.encode s)) : IsSign (.text (some s))
  | blob {bytes : List UInt8} (h : Number.IsSign bytes) : IsSign (.blob (some bytes))

/-- A value converts to the integer of a type that it states, and to no other; one that states none
is refused. -/
structure ConvertsExactly (k : IntKind) (v : Value) : Prop where
  stated : ∀ n : Bounded k.stored, v.toInteger k = .ok n ↔ v.States n.val
  refused : (∀ n : Bounded k.stored, ¬ v.States n.val) →
    v.toInteger k = .fail (.valueConversion v k.name)

variable {k : IntKind} {v : Value}

theorem integer?_eq_some_iff {n : Int} :
    v.integer? = some n ↔ v.States n ∨ v.IsSign ∧ n = 0 := by
  have hbytes {bytes : List UInt8} (hnumber : v.number? = none) (h : v.bytes? = some bytes) :
      v.integer? = some n ↔ Number.Numeral bytes n ∨ Number.IsSign bytes ∧ n = 0 := by
    rw [integer?, hnumber, h]
    exact Number.readInt?_eq_some_iff
  constructor
  · intro h
    match v with
    | .integer t (some m) =>
        obtain rfl := Option.some.inj h
        exact .inl (.integer m)
    | .boolean (some b) =>
        obtain rfl := Option.some.inj h
        exact .inl (.boolean b)
    | .text (some s) => exact ((hbytes rfl rfl).mp h).imp .text fun hs => ⟨.text hs.1, hs.2⟩
    | .blob (some bytes) => exact ((hbytes rfl rfl).mp h).imp .blob fun hs => ⟨.blob hs.1, hs.2⟩
    | .null | .integer _ none | .boolean none | .text none | .blob none => cases h
    | .float _ _ | .timestamp _ | .list _ | .record _ => cases h
  · rintro (hstates | ⟨hsign, rfl⟩)
    · cases hstates with
      | integer m => rfl
      | boolean b => rfl
      | text h => exact (hbytes rfl rfl).mpr (.inl h)
      | blob h => exact (hbytes rfl rfl).mpr (.inl h)
    · cases hsign with
      | text h => exact (hbytes rfl rfl).mpr (.inr ⟨h, rfl⟩)
      | blob h => exact (hbytes rfl rfl).mpr (.inr ⟨h, rfl⟩)

theorem toInteger_eq_ok_iff {n : Bounded k.stored} :
    v.toInteger k = .ok n ↔ v.States n.val ∨ v.IsSign ∧ n.val = 0 := by
  rw [← integer?_eq_some_iff, toInteger]
  constructor
  · intro h
    split at h
    · rename_i m hm
      obtain rfl : m = n := Except.ok.inj h
      obtain ⟨i, hi, hrange⟩ := Option.bind_eq_some_iff.mp hm
      rw [hi, Bounded.ofInt?_eq_some_iff.mp hrange]
    · cases h
  · intro h
    rw [h, Option.bind_some, Bounded.ofInt?_eq_some_iff.mpr rfl]

/-- A conversion that gives no integer fails by naming the value and the type. -/
theorem toInteger_ok_or_refused (k : IntKind) (v : Value) :
    (∃ n, v.toInteger k = .ok n) ∨ v.toInteger k = .fail (.valueConversion v k.name) := by
  rw [toInteger]
  split
  · exact .inl ⟨_, rfl⟩
  · exact .inr rfl

theorem IsSign.not_states {n : Int} (h : v.IsSign) : ¬ v.States n := by
  intro hstates
  cases h with
  | text h => cases hstates with
    | text hn => exact h.not_numeral hn
  | blob h => cases hstates with
    | blob hn => exact h.not_numeral hn

theorem convertsExactly_iff : ConvertsExactly k v ↔ ¬ v.IsSign := by
  constructor
  · intro h hsign
    have hzero : v.toInteger k = .ok (.zero k.stored) :=
      toInteger_eq_ok_iff.mpr (.inr ⟨hsign, rfl⟩)
    exact hsign.not_states ((h.stated _).mp hzero)
  · intro hsign
    have hstated (n : Bounded k.stored) : v.toInteger k = .ok n ↔ v.States n.val := by
      rw [toInteger_eq_ok_iff, or_iff_left fun h => hsign h.1]
    refine ⟨hstated, fun hnone => ?_⟩
    refine (toInteger_ok_or_refused k v).resolve_left ?_
    rintro ⟨n, hn⟩
    exact hnone n ((hstated n).mp hn)

/-- A value converts to the integer that it states, if this is within the range of the type, and a
sign alone converts to zero. Everything else is refused, so that conversion is exact but for signs.
The text of an integer converts to the integer again. -/
theorem converts_exactly_iff (k : IntKind) :
    (∀ v : Value,
      (∀ n : Bounded k.stored, v.toInteger k = .ok n ↔ v.States n.val ∨ v.IsSign ∧ n.val = 0) ∧
      ((∃ n, v.toInteger k = .ok n) ∨ v.toInteger k = .fail (.valueConversion v k.name)) ∧
      (ConvertsExactly k v ↔ ¬ v.IsSign)) ∧
    ∀ x : Bounded k.stored,
      ((Value.integer k.stored (some x)).toText.bind fun s => (text (some s)).toInteger k) =
        .ok x := by
  refine ⟨fun v => ⟨fun _ => toInteger_eq_ok_iff, toInteger_ok_or_refused k v,
    convertsExactly_iff⟩, fun x => ?_⟩
  change (text (some (toString x.val))).toInteger k = .ok x
  have hread : (text (some (toString x.val))).integer? = some x.val :=
    Number.readInt?_toString x.val
  exact toInteger_eq_ok_iff.mpr (integer?_eq_some_iff.mp hread)

/-- A plus sign is no number, and converts to zero. -/
theorem not_exact_plus :
    (text (some "+")).toInteger (.fixed .i32) = .ok (.zero _) ∧
      (∀ n, ¬ (text (some "+")).States n) ∧
      ¬ ConvertsExactly (.fixed .i32) (text (some "+")) := by
  have hsign : (text (some "+")).IsSign := .text (.inl (by decide))
  obtain ⟨hok, -, hexact⟩ := (converts_exactly_iff (.fixed .i32)).1 (text (some "+"))
  exact ⟨(hok _).mpr (.inr ⟨hsign, rfl⟩), fun _ => hsign.not_states, fun h => hexact.mp h hsign⟩

end Value

end SqlMapping
