import SqlMapping.Object.Kind

/-!
# Declared types

The type of a member as it is written, and whether one column can store it. Only the text counts:
a collection is known by the last segments of its path.
-/

namespace SqlMapping

/-- A type as it is written. -/
inductive TypeExpr where
  /-- A path such as `std::vec::Vec<u8>`, which may begin with `::` and whose last segment may have
  a lifetime and types as arguments. -/
  | path (rooted : Bool) (segments : List String) (lifetime : Bool) (arguments : List TypeExpr)
  | array (element : TypeExpr)
  | slice (element : TypeExpr)
  | reference (target : TypeExpr)
  | pointer (target : TypeExpr)
  | tuple (parts : List TypeExpr)
  | function (parameters : List TypeExpr)
  /-- A type known by its traits alone. -/
  | traits
  | parenthesized (inner : TypeExpr)
  | never
  | inferred
  deriving Inhabited

/-- How a member of a type is stored. -/
inductive Storage where
  /-- As a field: a scalar, bytes, a time, a coded value or a nested object. -/
  | field
  | unsupported (k : Unsupported)
  deriving DecidableEq

/-- Whether two paths agree, counted from their ends, as far as both go. -/
def pathsAgree (a b : List String) : Bool :=
  (a.reverse.zip b.reverse).all fun (x, y) => x == y

/-- Whether a path agrees with one of several. -/
def agreesWithAny (segments : List String) (paths : List (List String)) : Bool :=
  paths.any (pathsAgree segments)

namespace TypeExpr

def listPaths : List (List String) :=
  [["std", "vec", "Vec"], ["std", "collections", "VecDeque"], ["std", "collections", "LinkedList"]]

def mapPaths : List (List String) :=
  [["std", "collections", "HashMap"], ["std", "collections", "BTreeMap"], ["indexmap", "IndexMap"]]

def setPaths : List (List String) :=
  [["std", "collections", "HashSet"], ["std", "collections", "BTreeSet"], ["indexmap", "IndexSet"]]

/-- The paths of the ends of channels. -/
def channelPaths : List (List String) :=
  [["mpsc", "Sender"], ["mpsc", "Receiver"], ["mpsc", "SyncSender"], ["mpsc", "UnboundedSender"],
    ["mpsc", "UnboundedReceiver"], ["oneshot", "Sender"], ["oneshot", "Receiver"]]

def optionPath : List String :=
  ["std", "option", "Option"]

/-- Whether a type is the plain name of the byte. -/
def isByte : TypeExpr → Bool
  | path false ["u8"] false [] => true
  | _ => false

/-- Whether a path with arguments is that of a vector of bytes. -/
def isBytes (segments : List String) (arguments : List TypeExpr) : Bool :=
  segments.getLast? == some "Vec" && (arguments.head?.map isByte).getD false

/-- The shape that a path names, if it is one that no column can store. -/
def pathShape? (segments : List String) (arguments : List TypeExpr) : Option Unsupported :=
  if agreesWithAny segments listPaths then
    if isBytes segments arguments then none else some .slice
  else if agreesWithAny segments mapPaths then some .map
  else if agreesWithAny segments setPaths then some .set
  else if agreesWithAny segments channelPaths then some .channel
  else none

/-- Whether a path is that of an optional type. -/
def isOption (segments : List String) : Bool :=
  pathsAgree segments optionPath

/-- How a member of a type is stored; an optional type is stored as the type it may hold. There is
no answer for types that nothing is known of. -/
def storage? : TypeExpr → Option Storage
  | path _ segments _ arguments =>
    match pathShape? segments arguments with
    | some k => some (.unsupported k)
    | none =>
      match arguments with
      | inner :: _ => if isOption segments then storage? inner else some .field
      | [] => some .field
  | array _ => some (.unsupported .array)
  | slice _ | reference _ => some (.unsupported .slice)
  | tuple _ => some (.unsupported .tuple)
  | function _ | traits => some (.unsupported .function)
  | parenthesized inner => storage? inner
  | pointer _ | never | inferred => none

end TypeExpr

end SqlMapping
