/-!
# Integers of a column type

The eight integer types of columns, and integers within the range of one.
-/

namespace SqlMapping

/-- The integer types of columns. -/
inductive IntType where
  | i8
  | i16
  | i32
  | i64
  | u8
  | u16
  | u32
  | u64
  deriving DecidableEq, Inhabited

namespace IntType

def least : IntType → Int
  | i8 => -128
  | i16 => -32768
  | i32 => -2147483648
  | i64 => -9223372036854775808
  | u8 | u16 | u32 | u64 => 0

def greatest : IntType → Int
  | i8 => 127
  | i16 => 32767
  | i32 => 2147483647
  | i64 => 9223372036854775807
  | u8 => 255
  | u16 => 65535
  | u32 => 4294967295
  | u64 => 18446744073709551615

theorem least_nonpos (t : IntType) : t.least ≤ 0 := by
  cases t <;> decide

theorem greatest_nonneg (t : IntType) : 0 ≤ t.greatest := by
  cases t <;> decide

end IntType

/-- An integer within the range of a type. -/
structure Bounded (t : IntType) where
  val : Int
  least_le : t.least ≤ val
  le_greatest : val ≤ t.greatest
  deriving DecidableEq

namespace Bounded

/-- An integer as one of a type, if it is in range. -/
def ofInt? (t : IntType) (n : Int) : Option (Bounded t) :=
  if h : t.least ≤ n ∧ n ≤ t.greatest then some ⟨n, h.1, h.2⟩ else none

theorem ofInt?_eq_some_iff {t : IntType} {n : Int} {m : Bounded t} :
    ofInt? t n = some m ↔ m.val = n := by
  constructor
  · intro h
    rw [ofInt?] at h
    split at h
    · rw [← Option.some.inj h]
    · cases h
  · rintro rfl
    exact dif_pos ⟨m.least_le, m.le_greatest⟩

/-- Zero belongs to every type. -/
def zero (t : IntType) : Bounded t :=
  ⟨0, t.least_nonpos, t.greatest_nonneg⟩

instance (t : IntType) : Inhabited (Bounded t) := ⟨zero t⟩

end Bounded

/-- The integer types of members: those of columns, and the machine's own width, which is stored
in sixty-four bits. -/
inductive IntKind where
  | fixed (t : IntType)
  | native (signed : Bool)
  deriving DecidableEq, Inhabited

namespace IntKind

/-- The column type that stores a member. -/
def stored : IntKind → IntType
  | fixed t => t
  | native true => .i64
  | native false => .u64

/-- The name of a type in messages. -/
def name : IntKind → String
  | fixed .i8 => "i8"
  | fixed .i16 => "i16"
  | fixed .i32 => "i32"
  | fixed .i64 => "i64"
  | fixed .u8 => "u8"
  | fixed .u16 => "u16"
  | fixed .u32 => "u32"
  | fixed .u64 => "u64"
  | native true => "isize"
  | native false => "usize"

/-- All types, those of columns first. -/
def all : List IntKind :=
  [fixed .i8, fixed .i16, fixed .i32, fixed .i64, fixed .u8, fixed .u16, fixed .u32, fixed .u64,
    native true, native false]

def ofName? (name : String) : Option IntKind :=
  all.find? fun k => k.name == name

end IntKind

end SqlMapping
