import SqlMapping.Object.Scalar
import SqlMapping.Tag

/-!
# Objects

A mapped object is a tree: its members are scalars, optional members and nested objects, each
under its name and the tag it is annotated with.
-/

namespace SqlMapping

mutual
/-- What a member holds. -/
inductive Field where
  | scalar (s : Scalar)
  /-- An optional member: the kind and name of the type it may hold, a fresh content of that type
  if there is one, and its content. -/
  | optional (kind : Kind) (typeName : String) (fresh content : Option Field)
  | nested (o : Object)
/-- An object with members. -/
structure Object where
  /-- The name of the type in messages. -/
  label : String
  /-- The name that a table is derived from; empty for a projection without a name. -/
  typeName : String
  /-- The declared table, empty when none is. -/
  table : String
  primaryKey : String
  members : List Member
/-- A member in its place. -/
inductive Member where
  | field (name tag : String) (f : Field)
  /-- A member of a shape that no column can store. -/
  | unsupported (name tag : String) (k : Unsupported)
end

instance : Inhabited Field := ⟨.scalar default⟩

instance : Inhabited Object := ⟨⟨"", "", "", "id", []⟩⟩

instance : Inhabited Member := ⟨.field "" "" default⟩

namespace Member

def name : Member → String
  | field n .. => n
  | unsupported n .. => n

def tag : Member → String
  | field _ t _ => t
  | unsupported _ t _ => t

end Member

namespace Field

def kind : Field → Kind
  | scalar s => s.kind
  | optional k _ _ none => if k.isScalar then .null else .nested
  | optional _ _ _ (some f) => f.kind
  | nested _ => .nested

/-- The kind of the type, whatever the content. -/
def typeKind : Field → Kind
  | scalar s => s.kind
  | optional k .. => k
  | nested _ => .nested

def toValue : Field → Value
  | scalar s => s.toValue
  | optional _ _ _ none => .null
  | optional _ _ _ (some f) => f.toValue
  | nested _ => .null

/-- An optional member is zero when it is absent, whatever a present one holds. -/
def isZero : Field → Bool
  | scalar s => s.isZero
  | optional _ _ _ c => c.isNone
  | nested _ => false

/-- The typed null that a column is scanned into. -/
def buffer : Field → Value
  | scalar s => s.buffer
  | optional _ _ none none => .null
  | optional _ _ (some f) none => f.buffer
  | optional _ _ _ (some f) => f.buffer
  | nested _ => .null

def isNull : Field → Bool
  | optional _ _ _ none => true
  | _ => false

/-- A fresh member of the same type; none for a nested object. -/
def fresh? : Field → Option Field
  | scalar s => s.fresh?.map scalar
  | optional k n f _ => some (optional k n f none)
  | nested _ => none

/-- The object of a nested member, if it is present. -/
def object? : Field → Option Object
  | optional _ _ _ (some f) => f.object?
  | nested o => some o
  | _ => none

/-- Fills an absent optional member; false when it cannot be filled. -/
def allocate : Field → Field × Bool
  | optional k n (some f) none => (optional k n (some f) (some f), true)
  | optional k n none none => (optional k n none none, false)
  | f => (f, true)

/-- The member after a column's value is assigned to it. An absent optional member is filled
first, and stays filled when the assignment fails. -/
def assign (v : Value) : Field → Attempt Field
  | scalar s =>
    match s.assign v with
    | .ok s => ⟨scalar s, none⟩
    | .error e => ⟨scalar s, some e⟩
  | optional k n fresh content =>
    if v.isNull then ⟨optional k n fresh none, none⟩
    else match content, fresh with
      | some f, _ => (f.assign v).map fun f => optional k n fresh (some f)
      | none, some f => (f.assign v).map fun g => optional k n (some f) (some g)
      | none, none => ⟨optional k n none none, some (Cause.nullFieldUnassignable n)⟩
  | nested o => ⟨nested o, some (Cause.nestedAssignment o.label)⟩

/-- Works on the object of a nested member, if it is present. -/
def updateObject? (g : Object → Attempt Object) : Field → Option (Attempt Field)
  | optional k n fresh (some f) =>
    (f.updateObject? g).map (Attempt.map fun f => optional k n fresh (some f))
  | nested o => some ((g o).map nested)
  | _ => none

end Field

mutual
/-- Fills the absent optional members of an object, and of the objects in it, up to the first that
cannot be filled. Members that are ignored stay as they are. -/
def Object.allocate : Object → Attempt Object
  | ⟨label, typeName, table, primaryKey, members⟩ =>
    (allocateAll members).map fun members => ⟨label, typeName, table, primaryKey, members⟩
/-- Fills members in order. -/
def allocateAll : List Member → Attempt (List Member)
  | [] => ⟨[], none⟩
  | m :: ms =>
    match m.fill with
    | ⟨m, some e⟩ => ⟨m :: ms, some e⟩
    | ⟨m, none⟩ => (allocateAll ms).map (m :: ·)
def Member.fill : Member → Attempt Member
  | .unsupported name tag k =>
    match Tag.parse tag with
    | .error e => ⟨.unsupported name tag k, some e⟩
    | .ok _ => ⟨.unsupported name tag k, none⟩
  | .field name tag f =>
    match Tag.parse tag with
    | .error e => ⟨.field name tag f, some e⟩
    | .ok t =>
      if t.ignore then ⟨.field name tag f, none⟩
      else (f.fill name).map (.field name tag)
/-- Fills what a member holds, and the object in it. -/
def Field.fill (member : String) : Field → Attempt Field
  | .optional k n none none =>
    ⟨.optional k n none none, some (Cause.nullFieldUnassignable member)⟩
  | .optional k n (some f) none => f.fillObject.map fun g => .optional k n (some f) (some g)
  | .optional k n fresh (some f) => f.fillObject.map fun f => .optional k n fresh (some f)
  | .scalar s => ⟨.scalar s, none⟩
  | .nested o => o.allocate.map .nested
/-- Fills the object within a present member; an optional member within it stays absent. -/
def Field.fillObject : Field → Attempt Field
  | .optional k n fresh (some f) => f.fillObject.map fun f => .optional k n fresh (some f)
  | .nested o => o.allocate.map .nested
  | .optional k n fresh none => ⟨.optional k n fresh none, none⟩
  | .scalar s => ⟨.scalar s, none⟩
end

/-- Assigns a value to the member at a path; none when the path leads to no member. -/
def Object.assignAt? (v : Value) : List Nat → Object → Option (Attempt Object)
  | [], _ => none
  | i :: path, o =>
    match o.members[i]? with
    | some (.field name tag f) =>
      let assigned :=
        if path.isEmpty then some (f.assign v)
        else
          match f.object?.bind (assignAt? v path) with
          | some a => f.updateObject? fun _ => a
          | none => none
      assigned.map (Attempt.map fun f => { o with members := o.members.set i (.field name tag f) })
    | _ => none

end SqlMapping
