import SqlMapping.Object.Scalar
import SqlMapping.Proofs.DateTime
import SqlMapping.Proofs.Number.Binary

/-! # Scalar members read back

What is written for a scalar member and assigned to another one of its type, as it is or as a text,
is the content of the first again. A time is kept to the second. -/

namespace SqlMapping

/-- How the values written for an object come back in a row. -/
inductive Transport where
  | native
  /-- Every value but nulls and bytes comes back as its text. -/
  | text

def Transport.carry : Transport → Value → Value
  | .native, v => v
  | .text, .blob b => .blob b
  | .text, v => if v.isNull then v else .text (some v.display)

/-- A codec reads words as it wrote them, whatever it read before. -/
def Codec.Keeps (c : Codec) (words : List String) : Prop :=
  ∀ before, c.read before (c.write words) = words

namespace Scalar

/-- Two contents of one type. -/
inductive SameType : Scalar → Scalar → Prop
  | integer (k : IntKind) (n m : Bounded k.stored) : SameType (.integer k n) (.integer k m)
  | float (t : FloatType) (x y : Binary t) : SameType (.float t x) (.float t y)
  | boolean (a b : Bool) : SameType (.boolean a) (.boolean b)
  | text (s t : String) : SameType (.text s) (.text t)
  | bytes (a b : List UInt8) : SameType (.bytes a) (.bytes b)
  | time (d e : DateTime) : SameType (.time d) (.time e)
  | coded (c : Codec) (ws us : List String) : SameType (.coded c ws) (.coded c us)

theorem SameType.trans {s u w : Scalar} (h : s.SameType u) (h' : u.SameType w) :
    s.SameType w := by
  cases h <;> cases h' <;> constructor

/-- A content as it comes back: a time without what is below a second, and one number for all that
are no number. -/
def restored : Scalar → Scalar
  | float t x => float t (if x.isNaN then .nan t else x)
  | time d => time d.toSecond
  | s => s

/-- What has to hold of a content to come back: its codec keeps it, and the text of a number reads
as the number. -/
def Restores (c : Transport) : Scalar → Prop
  | coded k words => k.Keeps words
  | float t x => c = .text → x.isNaN = false →
    Number.readBinary? t (Text.Utf8.encode (Value.displayLayout.write x)) = some x
  | _ => True

variable {s u : Scalar} {c : Transport}

theorem toInteger_carry {k : IntKind} {n : Bounded k.stored} :
    (c.carry (.integer k.stored (some n))).toInteger k = .ok n := by
  have hinteger : (c.carry (.integer k.stored (some n))).integer? = some n.val := by
    cases c with
    | native => rfl
    | text => exact Number.readInt?_toString n.val
  rw [Value.toInteger, hinteger, Option.bind_some, Bounded.ofInt?_eq_some_iff.mpr rfl]

theorem toBinary_carry {t : FloatType} {x : Binary t} (h : (float t x).Restores c) :
    (c.carry (.float t (some x))).toBinary t = .ok (if x.isNaN then .nan t else x) := by
  cases c with
  | native =>
      have hconvert : x.convert t = if x.isNaN then .nan t else x := by
        cases hnan : x.isNaN with
        | true => simp [Binary.convert, hnan]
        | false => simpa using Binary.convert_self hnan
      exact congrArg Except.ok hconvert
  | text =>
      have hread : Number.readBinary? t (Text.Utf8.encode (Value.displayLayout.write x)) =
          some (if x.isNaN then .nan t else x) := by
        cases hnan : x.isNaN with
        | true =>
            rw [Number.Layout.write, if_pos hnan, if_pos rfl]
            cases t <;> decide +kernel
        | false => exact h rfl hnan
      have hcarry : Transport.carry .text (.float t (some x)) =
          .text (some (Value.displayLayout.write x)) := rfl
      simp only [hcarry, Value.toBinary, Value.number?, Value.bytes?, Option.bind_some, hread]

theorem toBoolean_carry {b : Bool} : (c.carry (.boolean (some b))).toBoolean = .ok b := by
  cases c <;> cases b <;> rfl

theorem toDateTime_carry {d : DateTime} :
    (c.carry (.text (some d.text))).toDateTime = .ok d.toSecond := by
  have hcarry : c.carry (.text (some d.text)) = .text (some d.text) := by cases c <;> rfl
  have hdecode : Text.Utf8.decode (Text.Utf8.encode d.text) = .ok d.text := by
    have hascii : ∀ c ∈ d.text.toList, c.toNat < 128 := fun _ h => d.lt_of_mem_text h
    have := Text.Utf8.decode_encode_of_ascii hascii
    rwa [String.ofList_toList] at this
  simp only [hcarry, Value.toDateTime, Value.bytes?, Option.bind_some, hdecode, Except.toOption,
    DateTime.parse?_text]

theorem isNull_carry (v : Value) : (c.carry v).isNull = v.isNull := by
  cases c with
  | native => rfl
  | text =>
      unfold Transport.carry
      split
      · rfl
      · rfl
      · split
        · rfl
        · rename_i h
          exact (Bool.not_eq_true _ ▸ h).symm

theorem isNull_toValue (s : Scalar) : s.toValue.isNull = false := by
  cases s <;> rfl

/-- What is written for a content is assigned as this content. -/
theorem assign_carry (h : s.SameType u) (hs : s.Restores c) :
    u.assign (c.carry s.toValue) = .ok s.restored := by
  have hnull : (c.carry s.toValue).isNull = false := (isNull_carry _).trans s.isNull_toValue
  have hblob : ∀ b, c.carry (.blob (some b)) = .blob (some b) := by
    intro b
    cases c <;> rfl
  have htext : ∀ t, c.carry (.text (some t)) = .text (some t) := by
    intro t
    cases c <;> rfl
  cases h with
  | integer k n m =>
      rw [assign, hnull, toValue, toInteger_carry]
      rfl
  | float t x y =>
      rw [assign, hnull, toValue, toBinary_carry hs]
      rfl
  | boolean a b =>
      rw [assign, hnull, toValue, toBoolean_carry]
      rfl
  | text a b =>
      rw [assign, hnull, toValue, htext]
      rfl
  | bytes a b =>
      rw [assign, hnull, toValue, hblob]
      rfl
  | time d e =>
      rw [assign, hnull, toValue, toDateTime_carry]
      rfl
  | coded k ws us =>
      rw [assign, hnull, toValue, hblob]
      exact congrArg (fun ws => Except.ok (coded k ws)) (hs us)

/-- An empty content that is written as a null is assigned as this content. -/
theorem assign_null_of_isZero (h : s.SameType u) (hs : s.Restores c) (hzero : s.isZero)
    (hkind : s.kind = .time ∨ s.kind = .codec) : u.assign .null = .ok s.restored := by
  cases h with
  | time d e =>
      obtain rfl : d = .zero := by simpa [isZero] using hzero
      rfl
  | coded k ws us =>
      have hempty : k.write ws = [] := by simpa [isZero] using hzero
      have hread : k.read us [] = ws := hempty ▸ hs us
      exact congrArg (fun ws => Except.ok (coded k ws)) hread
  | _ => simp [kind] at hkind

end Scalar

end SqlMapping
