import SqlMapping.Mapping.Basic

/-!
# Scanned rows

The values of a row go to the buffers of mapped columns and from there to the members.
-/

namespace SqlMapping.Mapping

/-- The places of columns among the mapped ones, a name with an alias taken by its name. A place
is given once; a column that is not mapped or whose place is taken has none. -/
def placesFrom (m : Mapping) (taken : List Nat) : List String → List (Option Nat)
  | [] => []
  | c :: cs =>
    match m.columns.idxOf? (Alias.split c).1 with
    | some i =>
      if i ∈ taken then none :: m.placesFrom taken cs
      else some i :: m.placesFrom (i :: taken) cs
    | none => none :: m.placesFrom taken cs

def places (m : Mapping) (columns : List String) : List (Option Nat) :=
  m.placesFrom [] columns

def allPlaces (m : Mapping) : List (Option Nat) :=
  (List.range m.fields.length).map some

/-- Marks the fields at places as scanned and stores the values of a row in them; a row that is
too short leaves the buffers beyond it. -/
def store : List (Option Nat) → List Value → List MappedField → List MappedField
  | [], _, fields => fields
  | p :: ps, row, fields =>
    let fields := match p with
      | none => fields
      | some i => fields.modify i fun f =>
        { f with scanned := true, buffer := row.head?.getD f.buffer }
    store ps row.tail fields

/-- Scans a row into the buffers at places. -/
def scan (m : Mapping) (places : List (Option Nat)) (row : List Value) : Mapping :=
  { m with fields := store places row m.fields }

def buffers (m : Mapping) (places : List (Option Nat)) : List (Option Value) :=
  places.map fun p => p.bind fun i => m.fields[i]?.map MappedField.buffer

/-- Assigns a scanned buffer to its member. -/
def assignField (o : Object) (f : MappedField) : Attempt Object :=
  match o.assignAt? f.buffer f.path with
  | none => ⟨o, some (Cause.nullFieldUnassignable f.column)⟩
  | some ⟨o, e⟩ => ⟨o, e.map (Failure.within (.assigning f.column))⟩

/-- Assigns the scanned buffers to their members, in order, up to the first failure. -/
def assign (m : Mapping) (o : Object) : Attempt Object :=
  (m.fields.filter MappedField.scanned).foldl (fun a f => a.andThen (assignField · f)) ⟨o, none⟩

end SqlMapping.Mapping
