/-!
# Entries by name

Maps from names as lists of entries. A map that keeps its keys ascending is filled by `insert`,
one that keeps them in the order of their first use by `put`.
-/

namespace SqlMapping.Entries

variable {α : Type}

def find? (key : String) : List (String × α) → Option α
  | [] => none
  | (k, v) :: es => if k = key then some v else find? key es

/-- Sets an entry among ascending ones. -/
def insert (key : String) (value : α) : List (String × α) → List (String × α)
  | [] => [(key, value)]
  | (k, v) :: es =>
    if key < k then (key, value) :: (k, v) :: es
    else if k = key then (key, value) :: es
    else (k, v) :: insert key value es

/-- Sets an entry where its name stands, or at the end if it is new. -/
def put (key : String) (value : α) : List (String × α) → List (String × α)
  | [] => [(key, value)]
  | (k, v) :: es => if k = key then (k, value) :: es else (k, v) :: put key value es

def remove (key : String) : List (String × α) → List (String × α)
  | [] => []
  | (k, v) :: es => if k = key then es else (k, v) :: remove key es

/-- The ascending map of some entries, the last of a name winning. -/
def ofList (es : List (String × α)) : List (String × α) :=
  es.foldl (fun m e => insert e.1 e.2 m) []

/-- The map of some entries in order of first use, the last of a name winning. -/
def inOrder (es : List (String × α)) : List (String × α) :=
  es.foldl (fun m e => put e.1 e.2 m) []

end SqlMapping.Entries
