import SqlMapping.Object.Basic

/-! # Types of objects

The type of an object says all of it but what its members hold: its table, the names and tags of its
members, and which of them are optional. In an object of the type an optional member is present or
absent. -/

namespace SqlMapping

/-- The type of a member's scalar. -/
inductive ScalarType where
  | integer (k : IntKind)
  | float (t : FloatType)
  | boolean
  | text
  | bytes
  | time
  | coded (c : Codec)
  | constant (typeName shown : String)

def Scalar.type : Scalar → ScalarType
  | integer k _ => .integer k
  | float t _ => .float t
  | boolean _ => .boolean
  | text _ => .text
  | bytes _ => .bytes
  | time _ => .time
  | coded c _ => .coded c
  | constant n s => .constant n s

def ScalarType.kind : ScalarType → Kind
  | integer _ => .integer
  | float _ => .float
  | boolean => .boolean
  | text => .text
  | bytes => .bytes
  | time => .time
  | coded _ => .codec
  | constant .. => .text

mutual
/-- The type of what a member holds. -/
inductive FieldType where
  | scalar (t : ScalarType)
  /-- An optional type: the name of the type it may hold, a fresh content if there is one, and the
  type itself. -/
  | optional (typeName : String) (fresh : Option Field) (t : FieldType)
  | nested (t : ObjectType)
/-- The type of an object. -/
structure ObjectType where
  label : String
  typeName : String
  table : String
  primaryKey : String
  members : List MemberType
/-- A member in its place in a type. -/
inductive MemberType where
  | field (name tag : String) (t : FieldType)
  | unsupported (name tag : String) (k : Unsupported)
end

def FieldType.kind : FieldType → Kind
  | scalar t => t.kind
  | optional _ _ t => t.kind
  | nested _ => .nested

mutual
inductive Object.OfType : ObjectType → Object → Prop
  | mk {label typeName table primaryKey : String} {ts : List MemberType} {ms : List Member}
      (h : MembersOf ts ms) :
      Object.OfType ⟨label, typeName, table, primaryKey, ts⟩
        ⟨label, typeName, table, primaryKey, ms⟩
inductive MembersOf : List MemberType → List Member → Prop
  | nil : MembersOf [] []
  | cons {t : MemberType} {m : Member} {ts : List MemberType} {ms : List Member}
      (h : Member.OfType t m) (hs : MembersOf ts ms) : MembersOf (t :: ts) (m :: ms)
inductive Member.OfType : MemberType → Member → Prop
  | field {name tag : String} {t : FieldType} {f : Field} (h : Field.OfType t f) :
      Member.OfType (.field name tag t) (.field name tag f)
  | unsupported (name tag : String) (k : Unsupported) :
      Member.OfType (.unsupported name tag k) (.unsupported name tag k)
inductive Field.OfType : FieldType → Field → Prop
  | scalar (s : Scalar) : Field.OfType (.scalar s.type) (.scalar s)
  | absent (name : String) (fresh : Option Field) (t : FieldType) :
      Field.OfType (.optional name fresh t) (.optional t.kind name fresh none)
  | present {name : String} {fresh : Option Field} {t : FieldType} {f : Field}
      (h : Field.OfType t f) :
      Field.OfType (.optional name fresh t) (.optional t.kind name fresh (some f))
  | nested {t : ObjectType} {o : Object} (h : Object.OfType t o) :
      Field.OfType (.nested t) (.nested o)
end

/-! ## Kinds -/

theorem Scalar.kind_type (s : Scalar) : s.type.kind = s.kind := by
  cases s <;> rfl

theorem ScalarType.kind_ne_nested (t : ScalarType) : t.kind ≠ .nested := by
  cases t <;> exact nofun

/-- Whether a member is nested is known from its type. -/
theorem Field.OfType.kind_iff {t : FieldType} {f : Field} (h : f.OfType t) :
    f.kind = .nested ↔ t.kind = .nested := by
  match t, h with
  | _, .scalar s => rw [FieldType.kind, s.kind_type, kind]
  | _, .absent _ _ t => cases htype : t.kind <;> simp [kind, FieldType.kind, htype, Kind.isScalar]
  | _, .present h => exact h.kind_iff
  | _, .nested _ => exact ⟨fun _ => rfl, fun _ => rfl⟩

/-! ## Objects of a type -/

def ScalarType.fresh : ScalarType → Scalar
  | integer k => .integer k (.zero _)
  | float t => .float t (.zero t)
  | boolean => .boolean false
  | text => .text ""
  | bytes => .bytes []
  | time => .time .zero
  | coded c => .coded c []
  | constant n s => .constant n s

theorem ScalarType.type_fresh (t : ScalarType) : t.fresh.type = t := by
  cases t <;> rfl

mutual
/-- Every type has objects. -/
theorem ObjectType.exists_object (T : ObjectType) : ∃ o : Object, o.OfType T := by
  obtain ⟨label, typeName, table, primaryKey, ts⟩ := T
  obtain ⟨ms, hms⟩ := exists_members ts
  exact ⟨⟨label, typeName, table, primaryKey, ms⟩, .mk hms⟩
termination_by structural T
theorem exists_members (ts : List MemberType) : ∃ ms, MembersOf ts ms := by
  match ts with
  | [] => exact ⟨[], .nil⟩
  | t :: ts =>
      obtain ⟨m, hm⟩ := t.exists_member
      obtain ⟨ms, hms⟩ := exists_members ts
      exact ⟨m :: ms, .cons hm hms⟩
termination_by structural ts
theorem MemberType.exists_member (t : MemberType) : ∃ m : Member, m.OfType t := by
  match t with
  | .unsupported name tag k => exact ⟨_, .unsupported name tag k⟩
  | .field name tag t =>
      obtain ⟨f, hf, -⟩ := t.exists_present
      exact ⟨_, .field hf⟩
termination_by structural t
theorem FieldType.exists_present (t : FieldType) : ∃ f : Field, f.OfType t ∧ f.isNull = false := by
  match t with
  | .scalar t =>
      have hf := Field.OfType.scalar t.fresh
      rw [t.type_fresh] at hf
      exact ⟨_, hf, rfl⟩
  | .optional name fresh t =>
      obtain ⟨f, hf, -⟩ := t.exists_present
      exact ⟨_, .present hf, rfl⟩
  | .nested T =>
      obtain ⟨o, ho⟩ := T.exists_object
      exact ⟨.nested o, .nested ho, rfl⟩
termination_by structural t
end

end SqlMapping
