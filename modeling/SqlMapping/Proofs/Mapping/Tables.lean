import SqlMapping.Proofs.Mapping.Parsing
import SqlMapping.Proofs.Object.Typing

/-! # The tables of a type

An object without a table and a name of its own takes the table of its first extension. Which one
that is can depend on the optional members that are present: an absent extension is taken by its name
even if its type declares a table, and what an absent object holds is passed over. -/

namespace SqlMapping

/-- An object without its members. -/
def Object.bare (o : Object) : Object :=
  { o with members := [] }

/-- What all objects of a type have in common but their members. -/
def ObjectType.bare (T : ObjectType) : Object :=
  ⟨T.label, T.typeName, T.table, T.primaryKey, []⟩

mutual
/-- The extensions that the objects of a type may have first, of those objects that can be mapped.
There is one for each choice of the optional members that are present. -/
def ObjectType.searches (s : Scope) : ObjectType → List (Option TableRef)
  | ⟨_, _, _, _, members⟩ => searchesAmong s members
def searchesAmong (s : Scope) : List MemberType → List (Option TableRef)
  | [] => [none]
  | t :: ts => (t.searches s).flatMap fun first => (searchesAmong s ts).map first.or
def MemberType.searches (s : Scope) : MemberType → List (Option TableRef)
  | .unsupported _ tag _ =>
    match Tag.parse tag with
    | .error _ => []
    | .ok t => if t.ignore then [none] else []
  | .field name tag f =>
    match Tag.parse tag with
    | .error _ => []
    | .ok t =>
      if t.ignore || f.kind ≠ .nested then [none]
      else (f.contents s).map fun c => if t.extend then some (s.extension name t c.1) else c.2
/-- The objects that a nested member may hold, without their members, and what is first within
them. In a select it has to hold one. -/
def FieldType.contents (s : Scope) : FieldType → List (Option Object × Option TableRef)
  | .scalar _ => []
  | .nested T => (T.searches s).map fun found => (some T.bare, found)
  | .optional _ _ t => t.contents s ++ if s.mode = .select then [] else [(none, none)]
end

/-- The tables that the objects of a type are mapped to. -/
def Mapping.tables (m : Mapping) (mode : Mode) (T : ObjectType) : List TableRef :=
  if T.members.isEmpty then []
  else (T.searches (m.scope mode)).map fun found =>
    if m.tableGiven then m.table
    else if T.table ≠ "" then .parse T.table
    else if T.typeName ≠ "" then { name := m.naming.table T.typeName }
    else found.getD {}

variable {s : Scope} {q q' : String} {path path' : List Nat} {found : Option TableRef}

/-! ## Searches that succeed -/

/-- All stops of a walk can be mapped, and this is the first extension among them. -/
def Searched (s : Scope) (stops : List Stop) (found : Option TableRef) : Prop :=
  (∀ p ∈ stops, p.member.Fits s.mode) ∧ stops.findSome? (Stop.extension? s) = found

theorem searched_nil : Searched s [] found ↔ found = none := by
  simp [Searched, eq_comm]

theorem searched_append {xs ys : List Stop} :
    Searched s (xs ++ ys) found ↔
      ∃ first later, Searched s xs first ∧ Searched s ys later ∧ first.or later = found := by
  constructor
  · rintro ⟨hfits, hfound⟩
    rw [List.forall_mem_append] at hfits
    exact ⟨_, _, ⟨hfits.1, rfl⟩, ⟨hfits.2, rfl⟩, by rw [← hfound, List.findSome?_append]⟩
  · rintro ⟨_, _, ⟨hxs, rfl⟩, ⟨hys, rfl⟩, rfl⟩
    exact ⟨List.forall_mem_append.mpr ⟨hxs, hys⟩, List.findSome?_append⟩

theorem searched_cons {p : Stop} {stops : List Stop} :
    Searched s (p :: stops) found ↔
      p.member.Fits s.mode ∧ ∃ later, Searched s stops later ∧ (p.extension? s).or later = found := by
  constructor
  · rintro ⟨hfits, hfound⟩
    rw [List.forall_mem_cons] at hfits
    refine ⟨hfits.1, _, ⟨hfits.2, rfl⟩, ?_⟩
    rw [← hfound, List.findSome?_cons]
    cases p.extension? s <;> rfl
  · rintro ⟨hp, _, ⟨hstops, rfl⟩, rfl⟩
    refine ⟨List.forall_mem_cons.mpr ⟨hp, hstops⟩, ?_⟩
    rw [List.findSome?_cons]
    cases p.extension? s <;> rfl

theorem searched_singleton {p : Stop} :
    Searched s [p] found ↔ p.member.Fits s.mode ∧ p.extension? s = found := by
  simp [searched_cons, searched_nil]

theorem Stop.extension?_field {name tag : String} {f : Field} {t : Tag}
    (htag : Tag.parse tag = .ok t) (hmapped : t.ignore = false) :
    extension? s ⟨path, q, .field name tag f⟩ =
      if f.kind = .nested ∧ t.extend then some (s.extension name t f.object?) else none := by
  simp [extension?, htag, hmapped]

/-- What is found does not depend on the alias and the path that a walk starts from. -/
theorem Field.searched_walk (f : Field) (q q' : String) (path path' : List Nat) :
    Searched s (f.walk s q path) found ↔ Searched s (f.walk s q' path') found := by
  have hextension : ∀ p : Stop, p.extension? s = Stop.extension? s ⟨[], "", p.member⟩ := fun _ => rfl
  have hsearched : ∀ stops : List Stop, Searched s stops found ↔
      (∀ m ∈ stops.map Stop.member, m.Fits s.mode) ∧
        (stops.map Stop.member).findSome? (fun m => Stop.extension? s ⟨[], "", m⟩) = found := by
    intro stops
    rw [Searched, List.forall_mem_map, List.findSome?_map]
    rfl
  rw [hsearched, hsearched, f.map_member_walk q q' path path']

theorem Scope.extension_bare (s : Scope) (name : String) (t : Tag) (o : Option Object) :
    s.extension name t (o.map Object.bare) = s.extension name t o := by
  cases o <;> rfl

theorem Object.OfType.bare {T : ObjectType} {o : Object} (h : o.OfType T) : o.bare = T.bare := by
  cases h
  rfl

/-! ## Searches of a type -/

/-- A member that can be mapped and is not ignored leads to an extension of its own, or on to what it
holds. -/
theorem searched_field {name tag : String} {f : Field} {t : Tag} (htag : Tag.parse tag = .ok t)
    (hmapped : t.ignore = false) (hnested : f.kind = .nested) :
    Searched s ((Member.field name tag f).walk s q path) found ↔
      (s.mode = .select → f.object?.isSome) ∧ ∃ within, Searched s (f.walk s "" []) within ∧
        (if t.extend then some (s.extension name t f.object?) else within) = found := by
  rw [Member.walk_field htag hmapped, searched_cons, Stop.extension?_field htag hmapped]
  have hfits : (Member.field name tag f).Fits s.mode ↔ (s.mode = .select → f.object?.isSome) := by
    constructor
    · rintro (⟨ht, h⟩ | ⟨-, -, h⟩)
      · cases htag.symm.trans ht
        cases hmapped.symm.trans h
      · exact fun hmode => (h hmode).2 hnested
    · exact fun h => .mapped htag hmapped fun hmode =>
        ⟨f.isNull_of_object? (h hmode), fun _ => h hmode⟩
  rw [hfits]
  simp only [f.searched_walk _ "" path []]
  cases t.extend <;> simp [hnested]

/-- An ignored member or a leaf leads to none. -/
theorem searched_leaf {name tag : String} {f : Field} {t : Tag} (htag : Tag.parse tag = .ok t)
    (h : t.ignore ∨ f.kind ≠ .nested) :
    Searched s ((Member.field name tag f).walk s q path) found ↔
      (Member.field name tag f).Fits s.mode ∧ found = none := by
  cases hignore : t.ignore with
  | true =>
      have htag : Tag.parse (Member.field name tag f).tag = .ok t := htag
      rw [Member.walk_of_ignored htag hignore, searched_singleton,
        Stop.extension?_of_ignored htag hignore, eq_comm (a := none)]
  | false =>
      have hleaf : f.kind ≠ .nested := h.resolve_left (by simp [hignore])
      rw [Member.walk_field htag hignore, f.walk_of_kind hleaf, searched_singleton,
        Stop.extension?_field htag hignore, if_neg (by simp [hleaf]), eq_comm (a := none)]

namespace MemberType

theorem searches_field (s : Scope) {name tag : String} {t : Tag} (htag : Tag.parse tag = .ok t)
    (f : FieldType) :
    (field name tag f).searches s =
      if t.ignore || f.kind ≠ .nested then [none]
      else (f.contents s).map fun c =>
        if t.extend then some (s.extension name t c.1) else c.2 := by
  rw [searches, htag]

/-- A member that is ignored or a leaf leads to none. -/
theorem mem_searches_leaf {name tag : String} {f : FieldType} {t : Tag} (htag : Tag.parse tag = .ok t)
    (hleaf : t.ignore ∨ f.kind ≠ .nested) :
    found ∈ (field name tag f).searches s ↔
      ∃ g : Field, g.OfType f ∧ Searched s ((Member.field name tag g).walk s q path) found := by
  have hsearched : ∀ {g : Field}, g.OfType f →
      (Searched s ((Member.field name tag g).walk s q path) found ↔
        (Member.field name tag g).Fits s.mode ∧ found = none) := fun hg =>
    searched_leaf htag (hleaf.imp_right fun h => mt hg.kind_iff.mp h)
  rw [searches_field s htag, if_pos (by simpa using hleaf), List.mem_singleton]
  constructor
  · intro hfound
    obtain ⟨g, hg, hpresent⟩ := f.exists_present
    refine ⟨g, hg, (hsearched hg).mpr ⟨?_, hfound⟩⟩
    cases hignore : t.ignore with
    | true => exact .ignored htag hignore
    | false =>
        have hkind : g.kind ≠ .nested :=
          mt hg.kind_iff.mp (hleaf.resolve_left (by simp [hignore]))
        exact .mapped htag hignore fun _ => ⟨hpresent, fun h => absurd h hkind⟩
  · rintro ⟨g, hg, h⟩
    exact ((hsearched hg).mp h).2

/-- What a nested member leads to, if this is known of what it holds. -/
theorem mem_searches_nested {name tag : String} {f : FieldType} {t : Tag}
    (htag : Tag.parse tag = .ok t) (hmapped : t.ignore = false) (hnested : f.kind = .nested)
    (hnest : ∀ c, c ∈ f.contents s ↔ ∃ g : Field, g.OfType f ∧
      (s.mode = .select → g.object?.isSome) ∧ g.object?.map Object.bare = c.1 ∧
        Searched s (g.walk s "" []) c.2) :
    found ∈ (field name tag f).searches s ↔
      ∃ g : Field, g.OfType f ∧ Searched s ((Member.field name tag g).walk s q path) found := by
  rw [searches_field s htag, if_neg (by simp [hmapped, hnested]), List.mem_map]
  constructor
  · rintro ⟨c, hc, hfound⟩
    obtain ⟨g, hg, hpresent, hbare, hwithin⟩ := (hnest c).mp hc
    refine ⟨g, hg, (searched_field htag hmapped (hg.kind_iff.mpr hnested)).mpr
      ⟨hpresent, c.2, hwithin, ?_⟩⟩
    rwa [← s.extension_bare, hbare]
  · rintro ⟨g, hg, h⟩
    obtain ⟨hpresent, within, hwithin, hfound⟩ :=
      (searched_field htag hmapped (hg.kind_iff.mpr hnested)).mp h
    refine ⟨(g.object?.map Object.bare, within),
      (hnest _).mpr ⟨g, hg, hpresent, rfl, hwithin⟩, ?_⟩
    rwa [s.extension_bare]

theorem mem_searches_field {name tag : String} {f : FieldType}
    (hnest : f.kind = .nested → ∀ c, c ∈ f.contents s ↔ ∃ g : Field, g.OfType f ∧
      (s.mode = .select → g.object?.isSome) ∧ g.object?.map Object.bare = c.1 ∧
        Searched s (g.walk s "" []) c.2) :
    found ∈ (field name tag f).searches s ↔
      ∃ g : Field, g.OfType f ∧ Searched s ((Member.field name tag g).walk s q path) found := by
  cases htag : Tag.parse tag with
  | error e =>
      constructor
      · intro h
        simp [searches, htag] at h
      · rintro ⟨g, -, hfits, -⟩
        obtain ⟨t, ht⟩ := (hfits _ (Member.mem_walk _)).tagged
        cases htag.symm.trans ht
  | ok t =>
      by_cases hleaf : t.ignore ∨ f.kind ≠ .nested
      · exact mem_searches_leaf htag hleaf
      · obtain ⟨hmapped, hnested⟩ : t.ignore = false ∧ f.kind = .nested := by simpa using hleaf
        exact mem_searches_nested htag hmapped hnested (hnest hnested)

theorem mem_searches_unsupported {name tag : String} {k : Unsupported} :
    found ∈ (unsupported name tag k).searches s ↔
      Searched s ((Member.unsupported name tag k).walk s q path) found := by
  have hextension : Stop.extension? s ⟨path, q, .unsupported name tag k⟩ = none := rfl
  rw [Member.walk, searched_singleton, hextension, searches]
  cases htag : Tag.parse tag with
  | error e =>
      simp only [List.not_mem_nil, false_iff, not_and]
      intro hfits
      obtain ⟨t, ht⟩ := hfits.tagged
      cases htag.symm.trans ht
  | ok t =>
      cases hignore : t.ignore with
      | true =>
          simp [hignore, show (Member.unsupported name tag k).Fits s.mode from
            .ignored htag hignore, eq_comm]
      | false =>
          simp only [hignore, Bool.false_eq_true, if_false, List.not_mem_nil, false_iff, not_and]
          rintro (⟨ht, h⟩)
          cases htag.symm.trans ht
          cases hignore.symm.trans h

end MemberType

mutual
/-- The searches of a type are those of its objects. -/
theorem ObjectType.mem_searches (T : ObjectType) (q : String) (path : List Nat)
    {found : Option TableRef} :
    found ∈ T.searches s ↔ ∃ o : Object, o.OfType T ∧ Searched s (o.walk s q path) found := by
  obtain ⟨label, typeName, table, primaryKey, ts⟩ := T
  rw [ObjectType.searches, mem_searchesAmong ts q path 0]
  constructor
  · rintro ⟨ms, hms, h⟩
    exact ⟨⟨label, typeName, table, primaryKey, ms⟩, .mk hms, h⟩
  · rintro ⟨_, ⟨hms⟩, h⟩
    exact ⟨_, hms, h⟩
termination_by structural T
theorem mem_searchesAmong (ts : List MemberType) (q : String) (path : List Nat) (place : Nat)
    {found : Option TableRef} :
    found ∈ searchesAmong s ts ↔
      ∃ ms, MembersOf ts ms ∧ Searched s (walkAll s q path place ms) found := by
  match ts with
  | [] =>
      rw [searchesAmong, List.mem_singleton]
      constructor
      · exact fun h => ⟨[], .nil, searched_nil.mpr h⟩
      · rintro ⟨_, ⟨⟩, h⟩
        exact searched_nil.mp h
  | t :: ts =>
      simp only [searchesAmong, List.mem_flatMap, List.mem_map,
        t.mem_searches q (path ++ [place]), mem_searchesAmong ts q path (place + 1)]
      constructor
      · rintro ⟨first, ⟨m, hm, hfirst⟩, later, ⟨ms, hms, hlater⟩, hfound⟩
        exact ⟨m :: ms, .cons hm hms, searched_append.mpr ⟨first, later, hfirst, hlater, hfound⟩⟩
      · rintro ⟨_, hms, h⟩
        cases hms with
        | cons hm hms =>
        obtain ⟨first, later, hfirst, hlater, hfound⟩ := searched_append.mp h
        exact ⟨first, ⟨_, hm, hfirst⟩, later, ⟨_, hms, hlater⟩, hfound⟩
termination_by structural ts
theorem MemberType.mem_searches (t : MemberType) (q : String) (path : List Nat)
    {found : Option TableRef} :
    found ∈ t.searches s ↔ ∃ m : Member, m.OfType t ∧ Searched s (m.walk s q path) found := by
  match t with
  | .unsupported name tag k =>
      rw [MemberType.mem_searches_unsupported]
      constructor
      · exact fun h => ⟨_, .unsupported name tag k, h⟩
      · rintro ⟨_, ⟨⟩, h⟩
        exact h
  | .field name tag f =>
      rw [MemberType.mem_searches_field fun hnested c => f.mem_contents hnested c]
      constructor
      · rintro ⟨g, hg, h⟩
        exact ⟨_, .field hg, h⟩
      · rintro ⟨_, ⟨hg⟩, h⟩
        exact ⟨_, hg, h⟩
termination_by structural t
theorem FieldType.mem_contents (t : FieldType) (hnested : t.kind = .nested)
    (c : Option Object × Option TableRef) :
    c ∈ t.contents s ↔ ∃ g : Field, g.OfType t ∧ (s.mode = .select → g.object?.isSome) ∧
      g.object?.map Object.bare = c.1 ∧ Searched s (g.walk s "" []) c.2 := by
  match t with
  | .scalar t => exact absurd hnested t.kind_ne_nested
  | .nested T =>
      obtain ⟨object, within⟩ := c
      simp only [FieldType.contents, List.mem_map, T.mem_searches "" []]
      constructor
      · rintro ⟨_, ⟨o, ho, h⟩, ⟨⟩⟩
        exact ⟨.nested o, .nested ho, fun _ => rfl, congrArg some ho.bare, h⟩
      · rintro ⟨_, hg, -, hobject, h⟩
        cases hg with
        | nested ho =>
        exact ⟨within, ⟨_, ho, h⟩, by rw [← ho.bare, ← hobject]; rfl⟩
  | .optional name fresh t =>
      rw [FieldType.contents, List.mem_append, t.mem_contents hnested]
      constructor
      · rintro (⟨g, hg, h⟩ | habsent)
        · exact ⟨_, .present hg, h⟩
        · split at habsent
          · cases habsent
          · rename_i hmode
            obtain rfl := List.mem_singleton.mp habsent
            exact ⟨_, .absent name fresh t, fun h => absurd h hmode, rfl, searched_nil.mpr rfl⟩
      · rintro ⟨_, hg, hpresent, hobject, h⟩
        cases hg with
        | present hg => exact .inl ⟨_, hg, hpresent, hobject, h⟩
        | absent =>
            obtain ⟨object, within⟩ := c
            obtain rfl : none = object := hobject
            obtain rfl : within = none := searched_nil.mp h
            have hmode : s.mode ≠ .select := fun hmode => nomatch hpresent hmode
            exact .inr (by simp [hmode])
termination_by structural t
end

/-! ## Searches in a select

A select takes no absent object, so a type leaves it at most one search. -/

mutual
theorem ObjectType.length_searches_le (T : ObjectType) (hmode : s.mode = .select) :
    (T.searches s).length ≤ 1 := by
  obtain ⟨_, _, _, _, ts⟩ := T
  exact length_searchesAmong_le ts hmode
termination_by structural T
theorem length_searchesAmong_le (ts : List MemberType) (hmode : s.mode = .select) :
    (searchesAmong s ts).length ≤ 1 := by
  match ts with
  | [] => exact Nat.le_refl 1
  | t :: ts =>
      rw [searchesAmong]
      match ht : t.searches s, t.length_searches_le hmode with
      | [], _ => exact Nat.zero_le 1
      | [first], _ =>
          rw [List.flatMap_singleton, List.length_map]
          exact length_searchesAmong_le ts hmode
termination_by structural ts
theorem MemberType.length_searches_le (t : MemberType) (hmode : s.mode = .select) :
    (t.searches s).length ≤ 1 := by
  match t with
  | .unsupported _ tag _ =>
      rw [MemberType.searches]
      split
      · exact Nat.zero_le 1
      · split <;> simp
  | .field name tag f =>
      rw [MemberType.searches]
      split
      · exact Nat.zero_le 1
      split
      · exact Nat.le_refl 1
      · rw [List.length_map]
        exact f.length_contents_le hmode
termination_by structural t
theorem FieldType.length_contents_le (t : FieldType) (hmode : s.mode = .select) :
    (t.contents s).length ≤ 1 := by
  match t with
  | .scalar _ => exact Nat.zero_le 1
  | .nested T =>
      rw [FieldType.contents, List.length_map]
      exact T.length_searches_le hmode
  | .optional _ _ t =>
      rw [FieldType.contents, if_pos hmode, List.append_nil]
      exact t.length_contents_le hmode
termination_by structural t
end

/-! ## Tables -/

namespace Mapping

variable {m : Mapping} {mode mode' : Mode} {T : ObjectType} {t : TableRef}

theorem tableOf_eq_of_searched {o : Object} (ho : o.OfType T)
    (h : Searched (m.scope mode) (o.walk (m.scope mode) "" []) found) :
    m.tableOf mode o =
      if m.tableGiven then m.table
      else if T.table ≠ "" then .parse T.table
      else if T.typeName ≠ "" then { name := m.naming.table T.typeName }
      else found.getD {} := by
  rw [tableOf, h.2]
  cases ho
  rfl

theorem OfType.members_eq_nil_iff {o : Object} (ho : o.OfType T) :
    o.members = [] ↔ T.members = [] := by
  cases ho with
  | mk hms => cases hms <;> simp

/-- The tables of a type are those that its objects are mapped to. -/
theorem mem_tables (m : Mapping) (mode : Mode) (T : ObjectType) (t : TableRef) :
    t ∈ m.tables mode T ↔ ∃ o m', o.OfType T ∧ m.parse mode o = ⟨m', none⟩ ∧ m'.table = t := by
  by_cases hmembers : T.members = []
  · rw [tables, if_pos (List.isEmpty_iff.mpr hmembers)]
    constructor
    · exact nofun
    · rintro ⟨o, m', ho, hparse, -⟩
      exact absurd ((OfType.members_eq_nil_iff ho).mpr hmembers)
        (((m.parse_iff_walk mode o).2 m').mp hparse).1
  · rw [tables, if_neg (by simpa using hmembers), List.mem_map]
    constructor
    · rintro ⟨found, hfound, ht⟩
      obtain ⟨o, ho, h⟩ := (T.mem_searches "" []).mp hfound
      refine ⟨o, _, ho, ((m.parse_iff_walk mode o).2 _).mpr
        ⟨mt (OfType.members_eq_nil_iff ho).mp hmembers, o.fits_walk _ h.1, rfl⟩, ?_⟩
      exact (tableOf_eq_of_searched ho h).trans ht
    · rintro ⟨o, m', ho, hparse, rfl⟩
      obtain ⟨-, hfits, rfl⟩ := ((m.parse_iff_walk mode o).2 m').mp hparse
      have h : Searched (m.scope mode) (o.walk (m.scope mode) "" []) _ :=
        ⟨o.fits_walk "" hfits, rfl⟩
      exact ⟨_, (T.mem_searches "" []).mpr ⟨o, ho, h⟩, (tableOf_eq_of_searched ho h).symm⟩

/-- A type has one table if that is given, declared or named after the type. -/
theorem tables_eq_of_named (hnamed : m.tableGiven ∨ T.table ≠ "" ∨ T.typeName ≠ "")
    (ht : t ∈ m.tables mode T) :
    t = if m.tableGiven then m.table
      else if T.table ≠ "" then .parse T.table
      else { name := m.naming.table T.typeName } := by
  rw [tables] at ht
  split at ht
  case isTrue => cases ht
  case isFalse =>
    obtain ⟨found, -, rfl⟩ := List.mem_map.mp ht
    split
    · rfl
    split
    · rfl
    · rename_i hgiven htable
      rw [if_pos ((hnamed.resolve_left hgiven).resolve_left htable)]

theorem tables_select_subsingleton {u : TableRef} (ht : t ∈ m.tables .select T)
    (hu : u ∈ m.tables .select T) : t = u := by
  have hlength : (m.tables .select T).length ≤ 1 := by
    rw [tables]
    split
    · exact Nat.zero_le 1
    · rw [List.length_map]
      exact T.length_searches_le rfl
  match m.tables .select T, hlength, ht, hu with
  | [_], _, ht, hu => rw [List.mem_singleton.mp ht, List.mem_singleton.mp hu]

/-- The objects of a type are mapped to the tables of the type and no others, so that all of them
agree on their table if the type has just one. It does when its table is given, declared or named
after the type, and in a select. It need not otherwise: an absent extension is taken by its name. -/
theorem tables_agree_iff (m : Mapping) (T : ObjectType) (mode mode' : Mode) :
    (∀ t, (∃ o m', o.OfType T ∧ m.parse mode o = ⟨m', none⟩ ∧ m'.table = t) ↔
      t ∈ m.tables mode T) ∧
    ((∀ o p m₁ m₂, o.OfType T → p.OfType T → m.parse mode o = ⟨m₁, none⟩ →
        m.parse mode' p = ⟨m₂, none⟩ → m₁.table = m₂.table) ↔
      ∀ t ∈ m.tables mode T, ∀ u ∈ m.tables mode' T, t = u) ∧
    (m.tableGiven ∨ T.table ≠ "" ∨ T.typeName ≠ "" ∨ mode = .select ∧ mode' = .select →
      ∀ t ∈ m.tables mode T, ∀ u ∈ m.tables mode' T, t = u) := by
  refine ⟨fun t => (m.mem_tables mode T t).symm, ⟨?_, ?_⟩, ?_⟩
  · intro hagree t ht u hu
    obtain ⟨o, m₁, ho, h₁, rfl⟩ := (m.mem_tables mode T t).mp ht
    obtain ⟨p, m₂, hp, h₂, rfl⟩ := (m.mem_tables mode' T u).mp hu
    exact hagree o p m₁ m₂ ho hp h₁ h₂
  · intro hagree o p m₁ m₂ ho hp h₁ h₂
    exact hagree _ ((m.mem_tables mode T _).mpr ⟨o, m₁, ho, h₁, rfl⟩) _
      ((m.mem_tables mode' T _).mpr ⟨p, m₂, hp, h₂, rfl⟩)
  · intro hsteady t ht u hu
    by_cases hnamed : m.tableGiven ∨ T.table ≠ "" ∨ T.typeName ≠ ""
    · exact (tables_eq_of_named hnamed ht).trans (tables_eq_of_named hnamed hu).symm
    · obtain ⟨rfl, rfl⟩ : mode = .select ∧ mode' = .select := by tauto
      exact tables_select_subsingleton ht hu

/-- A type without a name, with a billing that holds an extension and one that extends `customers`,
each of which may be absent. -/
def anonymousOrder : ObjectType :=
  { label := "Order", typeName := "", table := "", primaryKey := "id"
    members := [
      .field "billing" "" (.optional "Billing" none (.nested
        { label := "Billing", typeName := "Billing", table := "", primaryKey := "id"
          members := [.field "profile" "extend:profiles" (.nested
            { label := "Profile", typeName := "Profile", table := "", primaryKey := "id"
              members := [.field "city" "col:city" (.scalar .text)] })] })),
      .field "customer" "extend" (.optional "Customer" none (.nested
        { label := "Customer", typeName := "Customer", table := "customers", primaryKey := "id"
          members := [.field "name" "col:name" (.scalar .text)] }))] }

/-- An update of it goes to one of three tables, a select to one. -/
theorem tables_disagree_anonymousOrder :
    tables { naming := .snake } .update anonymousOrder =
      [⟨"profiles", "profiles"⟩, ⟨"profiles", "profiles"⟩, ⟨"customers", "customers"⟩,
        ⟨Naming.snake.table "customer", Naming.snake.table "customer"⟩] ∧
    (¬ ∀ o p m₁ m₂, o.OfType anonymousOrder → p.OfType anonymousOrder →
      parse { naming := .snake } .update o = ⟨m₁, none⟩ →
        parse { naming := .snake } .update p = ⟨m₂, none⟩ → m₁.table = m₂.table) ∧
    (∃ o m', o.OfType anonymousOrder ∧ parse { naming := .snake } .select o = ⟨m', none⟩ ∧
      m'.table = ⟨"profiles", "profiles"⟩) ∧
    ∀ t ∈ tables { naming := .snake } .select anonymousOrder,
      ∀ u ∈ tables { naming := .snake } .select anonymousOrder, t = u := by
  obtain ⟨-, hagree, -⟩ := tables_agree_iff { naming := .snake } anonymousOrder .update .update
  obtain ⟨hreached, -, hsteady⟩ :=
    tables_agree_iff { naming := .snake } anonymousOrder .select .select
  refine ⟨rfl, fun h => ?_, (hreached _).mpr (by decide +kernel),
    hsteady (.inr (.inr (.inr ⟨rfl, rfl⟩)))⟩
  exact absurd (hagree.mp h ⟨"profiles", "profiles"⟩ (by decide +kernel)
    ⟨"customers", "customers"⟩ (by decide +kernel)) (by decide)

end Mapping

end SqlMapping
