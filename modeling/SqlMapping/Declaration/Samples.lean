import SqlMapping.Declaration.Struct

/-!
# Sample structs

The structs of a small shop with a fresh object of each: a table with an optional and an ignored
member, an alias, a projection over an extension, and a table joined under an alias.
-/

namespace SqlMapping.Sample

def named (name : String) : TypeExpr :=
  .path false [name] false []

def applied (name : String) (argument : TypeExpr) : TypeExpr :=
  .path false [name] false [argument]

def member (name : String) (type : TypeExpr) : MemberDeclaration where
  isPublic := true
  name := name
  type := type

def tagged (name tag : String) (type : TypeExpr) : MemberDeclaration where
  isPublic := true
  name := name
  type := type
  tags := [.text tag]

/-- The fresh object of a declaration, empty when the declaration is at fault. -/
def fresh (s : StructDeclaration) (contents : List Field) : Object :=
  match s.describe with
  | .ok d => d.object contents
  | .error _ => default

/-- The number zero of a fixed type. -/
def zero (t : IntType) : Field :=
  .scalar (.integer (.fixed t) (.zero t))

def blank : Field :=
  .scalar (.text "")

def absent : Field :=
  .optional .text "String" (some blank) none

def text : TypeExpr :=
  named "String"

/-- A user, with a member that is left out. -/
def user : Object :=
  fresh
    { name := "User"
      attributes := [[("table", some (.text "users"))]]
      members := [member "id" (named "i64"), member "name" text,
        tagged "show" "update_zero:true" (named "i32"), member "email" (applied "Option" text),
        tagged "cached" "-" (applied "Vec" text)] }
    [zero .i64, blank, zero .i32, absent]

/-- A post, whose table has an alias. -/
def post : Object :=
  fresh
    { name := "Post"
      attributes := [[("table", some (.text "posts as p"))]]
      members := [member "id" (named "u64"), member "title" text, member "score" (named "f64"),
        member "published" (named "bool"), member "body" (applied "Vec" (named "u8")),
        member "created_at" (named "PrimitiveDateTime")] }
    [zero .u64, blank, .scalar (.float .double (.zero .double)), .scalar (.boolean false),
      .scalar (.bytes []), .scalar (.time .zero)]

def sub : Object :=
  fresh
    { name := "Sub", members := [member "sub_id" (named "i64"), member "label" text] }
    [zero .i64, blank]

/-- A projection without a table of its own; it takes that of its extension. -/
def withSub : Object :=
  fresh
    { name := "WithSub"
      attributes := [[("anonymous", none)]]
      members := [tagged "sub" "extend" (named "Sub"), member "total" (named "i64")] }
    [.nested sub, zero .i64]

def customer : Object :=
  fresh
    { name := "Customer", members := [tagged "customer_name" "col:name" text] }
    [blank]

/-- An order with its customer, a joined table. -/
def order : Object :=
  fresh
    { name := "Order"
      attributes := [[("table", some (.text "orders as o")),
        ("primary_key", some (.text "order_id"))]]
      members := [member "order_id" (named "i64"), member "amount" (named "f64"),
        tagged "customer" "extend:customers as c" (named "Customer"),
        tagged "note" "col:note;use_alias:false" (applied "Option" text)] }
    [zero .i64, .scalar (.float .double (.zero .double)), .nested customer, absent]

def all : List Object :=
  [user, post, sub, withSub, customer, order]

/-- The fresh object of the sample with a name. -/
def fresh? (name : String) : Option Object :=
  all.find? (·.label == name)

end SqlMapping.Sample
