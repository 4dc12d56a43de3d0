import SqlMapping.Proofs.Mapping.Scan
import SqlMapping.Proofs.Object.Filling
import SqlMapping.Proofs.Query.Equations
import SqlMapping.Proofs.Session.Recording
import SqlMapping.Session.Loading
import SqlMapping.Session.Scripted

/-! # What loading changes

Loading an object fills its absent members and assigns the values of a row. A leaf that a row has
no value for stays as it is, but for these: an absent one may be filled, and one whose column is
read from a row that ends before it may be emptied. -/

namespace SqlMapping

variable {o : Object} {f : Field} {path : List Nat} {columns : List String}

/-! ## Null values -/

theorem Field.isNull_buffer (f : Field) : f.buffer.isNull := by
  match f with
  | .scalar s =>
      cases s with
      | integer k n =>
          rw [buffer, Scalar.buffer]
          split <;> rfl
      | _ => rfl
  | .nested _ => rfl
  | .optional _ _ none none => rfl
  | .optional _ _ (some f) none => exact isNull_buffer f
  | .optional _ _ none (some f) => exact isNull_buffer f
  | .optional _ _ (some _) (some f) => exact isNull_buffer f

/-- All nulls are the same to a member. -/
theorem Field.assign_of_isNull {v : Value} (h : v.isNull) : f.assign v = f.assign .null := by
  have hnull : Value.null.isNull := rfl
  cases f with
  | scalar s => cases s <;> simp only [assign, Scalar.assign, h, hnull, if_true]
  | optional _ _ fresh content =>
      cases fresh <;> cases content <;> simp only [assign, h, hnull, if_true]
  | nested => rfl

theorem Field.assign_null_allocate : f.allocate.1.assign .null = f.assign .null := by
  match f with
  | .scalar _ => rfl
  | .nested _ => rfl
  | .optional _ _ none none => rfl
  | .optional _ _ (some _) none => rfl
  | .optional _ _ none (some _) => rfl
  | .optional _ _ (some _) (some _) => rfl

/-! ## Assigning a row -/

namespace Plan

/-- The plan reads the column of the member at a path. -/
def Reads (p : Plan) (path : List Nat) : Prop :=
  ∃ f ∈ p.mapping.fields, f.path = path ∧ f.column ∈ Mapping.names p.columns

/-- The plan has a value of a row for the member at a path: the one under the first of its columns
that names the member's. -/
def Gives (p : Plan) (row : List Value) (path : List Nat) : Prop :=
  ∃ f ∈ p.mapping.fields, f.path = path ∧
    ∃ i, (Mapping.names p.columns).idxOf? f.column = some i ∧ i < row.length

/-- The row ends before the value that the plan reads for the member at a path. -/
def Lacks (p : Plan) (row : List Value) (path : List Nat) : Prop :=
  ∃ f ∈ p.mapping.fields, f.path = path ∧
    ∃ i, (Mapping.names p.columns).idxOf? f.column = some i ∧ row.length ≤ i

end Plan

namespace Mapping

variable {m m₀ : Mapping} {row : List Value}

/-- A mapping has the fields of another one, scanned from some columns only. -/
structure Tracks (m₀ : Mapping) (columns : List String) (m : Mapping) : Prop where
  nodup : m.columns.Nodup
  field : ∀ f ∈ m.fields, ∃ f₀ ∈ m₀.fields, f.path = f₀.path ∧
    (f.scanned → f₀.column ∈ names columns) ∧ f.column = f₀.column

theorem Tracks.refl (h : m.Fits o) : m.Tracks columns m :=
  ⟨h.nodup, fun f hf => ⟨f, hf, rfl, fun hs => by simp [h.scanned_eq_false hf] at hs, rfl⟩⟩

theorem Tracks.scan (h : Tracks m₀ columns m) (row : List Value) :
    Tracks m₀ columns (m.scan (m.places columns) row) where
  nodup := (columns_scan h.nodup columns row).symm ▸ h.nodup
  field f hf := by
    rw [fields_scan_places h.nodup] at hf
    obtain ⟨g, hg, rfl⟩ := List.mem_map.mp hf
    obtain ⟨f₀, hf₀, hpath, hscanned, hcolumn⟩ := h.field g hg
    refine ⟨f₀, hf₀, by simpa using hpath, ?_, by simpa using hcolumn⟩
    intro hs
    cases hplace : (names columns).idxOf? g.column with
    | none =>
        rw [hplace] at hs
        exact hscanned hs
    | some i =>
        obtain ⟨hi, hname, -⟩ := List.idxOf?_eq_some_iff.mp hplace
        exact hcolumn ▸ hname ▸ List.getElem_mem hi

/-- A leaf whose column is not read stays as it is. -/
theorem Tracks.at?_assign (h : Tracks m₀ columns m) (hfits : m₀.Fits o)
    (hf : o.at? path = some f) (hleaf : f.object? = none)
    (hread : ¬ ∃ f₀ ∈ m₀.fields, f₀.path = path ∧ f₀.column ∈ names columns) :
    (m.assign o).state.at? path = some f := by
  rw [assign_eq, at?_assignAll, hf]
  intro g hg
  obtain ⟨hg, hscanned⟩ := List.mem_filter.mp hg
  obtain ⟨f₀, hf₀, hpath, hcolumn, -⟩ := h.field g hg
  obtain ⟨k, hk, hobject, -⟩ := hfits.at?_path hf₀
  rw [hpath]
  refine Object.apart_of_ne hk hobject hf hleaf fun heq => ?_
  exact hread ⟨f₀, hf₀, heq, hcolumn hscanned⟩

end Mapping

/-! ## Plans -/

theorem Cursor.head?_of_next (c : Cursor) {row : List Value} (h : c.next = .ok (some row)) :
    c.rows.head? = some row := by
  unfold Cursor.next at h
  split at h
  · rename_i heq
    cases h
    rw [heq]
    rfl
  · cases h
  · cases h

namespace Plan

variable {p : Plan} {naming : Naming} {aliases : Option (List (String × String))} {q : Query}
  {requested : List String}

theorem ofObject_snd : (ofObject naming aliases q requested o).2 = o.allocate.state := by
  rw [← Mapping.parseSelect_object (Mapping.setTable { naming, aliases } q.table), ofObject]
  split
  all_goals
    rename_i heq
    rw [heq]

theorem mapping_of_ofObject (h : (ofObject naming aliases q requested o).1 = .ok p) :
    (Mapping.setTable { naming, aliases } q.table).parseSelect o =
      ⟨(p.mapping, o.allocate.state), none⟩ := by
  rw [ofObject] at h
  split at h
  · cases h
  · rename_i m o' heq
    obtain rfl := Except.ok.inj h
    rw [heq, (Mapping.parseSelect_eq_ok.mp heq).1]

theorem fits_of_ofObject (h : (ofObject naming aliases q requested o).1 = .ok p) :
    p.mapping.Fits o.allocate.state :=
  Mapping.fits_of_parse (Mapping.parseSelect_eq_ok.mp (mapping_of_ofObject h)).2

/-! ## The first row -/

/-- What loading may do to an object. A leaf that no row has a value for is as it was or filled, or
it is emptied if there is a row and this ends before the value. -/
structure Spares (planned : Result Plan) (row : Option (List Value)) (o : Object)
    (loaded : Result Bool × Object) : Prop where
  not_found : loaded.1 = .ok false → loaded.2 = o.allocate.state
  kept : ∀ path f, o.at? path = some f → f.isLeaf →
    (∀ p r, planned = .ok p → row = some r → ¬ p.Gives r path) →
    loaded.2.at? path = some f ∨ loaded.2.at? path = some f.allocate.1 ∨
      (∃ p r, planned = .ok p ∧ row = some r ∧ p.Lacks r path) ∧
        loaded.2.at? path = some (f.assign .null).state

variable {c : Cursor}

/-- A leaf that a row has no value for is left alone, or emptied by a row that ends before it. -/
theorem at?_assignRow {row : List Value} (hfits : p.mapping.Fits o) (hf : o.at? path = some f)
    (hobject : f.object? = none) (hgives : ¬ p.Gives row path) :
    (assignRow p.mapping p.columns row o).2.state.at? path = some f ∨
      p.Lacks row path ∧
        (assignRow p.mapping p.columns row o).2.state.at? path = some (f.assign .null).state := by
  have hunscanned : p.mapping.Tracks p.columns p.mapping := .refl hfits
  have htracks := hunscanned.scan row
  by_cases hread : p.Reads path
  case neg => exact .inl (htracks.at?_assign hfits hf hobject hread)
  case pos =>
      obtain ⟨g, hg, rfl, hcolumn⟩ := id hread
      obtain ⟨i, hi⟩ : ∃ i, (Mapping.names p.columns).idxOf? g.column = some i := by
        cases hidx : (Mapping.names p.columns).idxOf? g.column with
        | none => exact absurd hcolumn (List.idxOf?_eq_none_iff.mp hidx)
        | some i => exact ⟨i, rfl⟩
      have hlength : row.length ≤ i := by
        by_cases hlt : i < row.length
        · exact absurd ⟨g, hg, rfl, i, hi, hlt⟩ hgives
        · omega
      obtain ⟨k, hk, -, hbuffer⟩ := hfits.at?_path hg
      obtain rfl : k = f := Option.some.inj (hk.symm.trans hf)
      have hfields := Mapping.fields_scan_places hfits.nodup p.columns row
      have hmem : g.scannedAt row (some i) ∈
          (p.mapping.scan (p.mapping.places p.columns) row).fields.filter MappedField.scanned := by
        rw [hfields, List.mem_filter]
        exact ⟨List.mem_map.mpr ⟨g, hg, by rw [hi]⟩, rfl⟩
      have hapart := hfields ▸ hfits.apart.map_scannedAt row _
      have hnull : k.assign (g.scannedAt row (some i)).buffer = k.assign .null := by
        have hsame : (g.scannedAt row (some i)).buffer = k.buffer := by
          simp [MappedField.scannedAt, List.getElem?_eq_none hlength, hbuffer]
        rw [hsame, Field.assign_of_isNull k.isNull_buffer]
      rw [assignRow, Mapping.assign_eq]
      rcases Mapping.at?_assignAll_of_mem (hapart.filter _) hmem hk
        (by simpa using hfits.path_ne_nil hg) with hassigned | ⟨-, hsame⟩
      · rw [hnull] at hassigned
        exact .inr ⟨⟨g, hg, rfl, i, hi, hlength⟩, hassigned⟩
      · exact .inl hsame

/-- What holds of a leaf of a filled object, for the leaf before it was filled. -/
theorem kept_of_filled {o' : Object} {lacks : Prop} (hf : o.at? path = some f) (hleaf : f.isLeaf)
    (h : ∀ g, o.allocate.state.at? path = some g → g.object? = none →
      o'.at? path = some g ∨ lacks ∧ o'.at? path = some (g.assign .null).state) :
    o'.at? path = some f ∨ o'.at? path = some f.allocate.1 ∨
      lacks ∧ o'.at? path = some (f.assign .null).state := by
  rcases Object.at?_allocate hf hleaf with hsame | hfilled
  · rcases h f hsame (f.object?_eq_none_of_isLeaf hleaf) with hkept | hemptied
    · exact .inl hkept
    · exact .inr (.inr hemptied)
  · have hobject := f.allocate.1.object?_eq_none_of_isLeaf (f.isLeaf_allocate hleaf)
    rcases h _ hfilled hobject with hkept | hemptied
    · exact .inr (.inl hkept)
    · exact .inr (.inr (f.assign_null_allocate ▸ hemptied))

theorem spares_filled (planned : Result Plan) (row : Option (List Value)) (r : Result Bool) :
    Spares planned row o (r, o.allocate.state) where
  not_found _ := rfl
  kept _ _ hf hleaf _ := kept_of_filled hf hleaf fun _ hg _ => .inl hg

theorem spares_loadFirst (hfits : p.mapping.Fits o.allocate.state) :
    Spares (.ok p) c.rows.head? o (p.loadFirst c o.allocate.state) := by
  rw [loadFirst]
  split
  · exact spares_filled _ _ _
  · exact spares_filled _ _ _
  · rename_i row hnext
    have hrow := c.head?_of_next hnext
    refine ⟨?_, fun path f hf hleaf hgives => ?_⟩
    · intro hfalse
      dsimp only at hfalse
      cases hresult : (assignRow p.mapping p.columns row o.allocate.state).2.result with
      | error e =>
          rw [hresult] at hfalse
          cases hfalse
      | ok u =>
          rw [hresult] at hfalse
          cases hfalse
    · refine kept_of_filled hf hleaf fun g hg hobject => ?_
      rcases at?_assignRow hfits hg hobject (hgives p row rfl hrow) with hkept | ⟨hlacks, hemptied⟩
      · exact .inl hkept
      · exact .inr ⟨⟨p, row, rfl, hrow, hlacks⟩, hemptied⟩

/-! ## All rows -/

/-- A leaf whose column is not read is in each object as in a fresh one that is filled. -/
theorem at?_loadRows {m₀ m : Mapping} {fresh : Object} {ending : Option Failure}
    {rows : List (List Value)} {objects : List Object} (hfits : m₀.Fits fresh.allocate.state)
    (htracks : m₀.Tracks columns m) (h : loadRows fresh columns ending m rows = .ok objects)
    (hf : fresh.allocate.state.at? path = some f) (hobject : f.object? = none)
    (hread : ¬ ∃ g ∈ m₀.fields, g.path = path ∧ g.column ∈ Mapping.names columns) :
    ∀ o ∈ objects, o.at? path = some f := by
  induction rows generalizing m objects with
  | nil =>
      cases ending with
      | some e => cases h
      | none =>
          obtain rfl := Except.ok.inj h
          simp
  | cons row rows ih =>
      have hrow : (assignRow m columns row fresh.allocate.state).2.state.at? path = some f :=
        (htracks.scan row).at?_assign hfits hf hobject hread
      rw [loadRows] at h
      simp only [Result.bind_eq_ok, pure, Except.pure, Except.ok.injEq] at h
      obtain ⟨_, -, _, -, rest, hrest, rfl⟩ := h
      intro o ho
      rcases List.mem_cons.mp ho with rfl | ho
      · exact hrow
      · exact ih (htracks.scan row) hrest o ho

end Plan

namespace Session

variable {σ : Type}

/-- The rows that a load reads, with the plan it reads them by. -/
def fetch (b : Backend σ) (planned : Result Plan) (statement : Plan → Result (Sql × List Value)) :
    Work σ (Plan × Cursor) := do
  let p : Plan ← yield planned
  setQuery p.query
  let (sql, values) ← yield (statement p)
  let s ← current
  let c ← runQuery b (s.text sql) values
  return (p, c)

theorem load_eq (b : Backend σ) (planned : Result Plan) (o : Object)
    (statement : Plan → Result (Sql × List Value)) (d : Desk σ) :
    load b (planned, o) statement d =
      (match (fetch b planned statement d).1 with
        | .error e => (.error e, o)
        | .ok (p, c) => p.loadFirst c o,
        (fetch b planned statement d).2) := by
  change (match (fetch b planned statement d).1 with
    | .error e => (pure (.error e, o) : StateM (Desk σ) (Result Bool × Object))
    | .ok (p, c) => pure (p.loadFirst c o)) (fetch b planned statement d).2 = _
  rcases (fetch b planned statement d).1 with e | ⟨p, c⟩ <;> rfl

theorem ok_of_bind {α β : Type} {w : Work σ α} {f : α → Work σ β} {d : Desk σ} {r : β}
    (h : ((w >>= f) d).1 = .ok r) : ∃ a, (w d).1 = .ok a ∧ (f a (w d).2).1 = .ok r := by
  rw [bind_apply] at h
  split at h
  · rename_i a d' heq
    rw [heq]
    exact ⟨a, rfl, h⟩
  · cases h

theorem terminal_fst {α : Type} (w : Work σ α) : (terminal w d).1 = (w d).1 := rfl

theorem plan_of_fetch {b : Backend σ} {planned : Result Plan}
    {statement : Plan → Result (Sql × List Value)} {d : Desk σ} {p : Plan} {c : Cursor}
    (h : (fetch b planned statement d).1 = .ok (p, c)) : planned = .ok p := by
  obtain ⟨q, hplanned, h⟩ := ok_of_bind h
  obtain ⟨_, -, h⟩ := ok_of_bind h
  obtain ⟨⟨sql, values⟩, -, h⟩ := ok_of_bind h
  obtain ⟨s, -, h⟩ := ok_of_bind h
  obtain ⟨cursor, -, h⟩ := ok_of_bind h
  obtain ⟨rfl, -⟩ := Prod.mk.inj (Except.ok.inj h)
  exact hplanned

theorem planFor_snd {s : Session} {aliases : Option (List (String × String))}
    {requested : List String} :
    (s.planFor aliases requested o).2 = o ∨
      (s.planFor aliases requested o).2 = o.allocate.state := by
  rw [planFor]
  split
  · exact .inl rfl
  · exact .inr Plan.ofObject_snd

theorem ofObject_of_planFor {s : Session} {aliases : Option (List (String × String))}
    {requested : List String} {p : Plan} (h : (s.planFor aliases requested o).1 = .ok p) :
    s.planFor aliases requested o = Plan.ofObject s.naming aliases s.query requested o := by
  rw [planFor] at h ⊢
  split at h
  · cases h
  · rfl

theorem fits_of_planFor {s : Session} {aliases : Option (List (String × String))}
    {requested : List String} {p : Plan} (h : (s.planFor aliases requested o).1 = .ok p) :
    (s.planFor aliases requested o).2 = o.allocate.state ∧ p.mapping.Fits o.allocate.state := by
  have hplan := ofObject_of_planFor h
  rw [hplan] at h ⊢
  exact ⟨Plan.ofObject_snd, Plan.fits_of_ofObject h⟩

/-- The first row that the statement of a load returns. -/
def returned? (b : Backend σ) (planned : Result Plan)
    (statement : Plan → Result (Sql × List Value)) (d : Desk σ) : Option (List Value) :=
  (fetch b planned statement d).1.toOption.bind fun (_, c) => c.rows.head?

theorem spares_load {planned : Result Plan} {filled : Object}
    {statement : Plan → Result (Sql × List Value)}
    (hfilled : filled = o ∨ filled = o.allocate.state)
    (hfits : ∀ p, planned = .ok p → filled = o.allocate.state ∧ p.mapping.Fits o.allocate.state) :
    Plan.Spares planned (returned? b planned statement d) o
      (load b (planned, filled) statement d).1 := by
  rw [load_eq, returned?]
  rcases hfetch : (fetch b planned statement d).1 with e | ⟨p, c⟩
  · refine ⟨nofun, fun path f hf hleaf _ => ?_⟩
    rcases hfilled with rfl | rfl
    · exact .inl hf
    · exact Plan.kept_of_filled hf hleaf fun _ hg _ => .inl hg
  · obtain rfl := plan_of_fetch hfetch
    obtain ⟨rfl, hfitted⟩ := hfits p rfl
    exact Plan.spares_loadFirst hfitted

/-- The first row that a find returns. -/
def foundRow? (b : Backend σ) (id : Value) (o : Object) (requested : List String)
    (d : Desk σ) : Option (List Value) :=
  returned? b (d.session.planFor none requested o).1 (fun p =>
    .ok (Sql.find p.query.distinct p.columns p.mapping.table p.mapping.qualifiedKey, [id])) d

/-- The first row that a select of the query returns. -/
def firstRow? (b : Backend σ) (o : Object) (requested : List String) (d : Desk σ) :
    Option (List Value) :=
  returned? b (d.session.planFor (some d.session.query.aliases) requested o).1
    (fun p => firstOf p.query) d

/-- Loading spares the leaves that no row has a value for, whatever the backend answers. A fresh
object differs there by being filled. -/
theorem loading_spares (b : Backend σ) (d : Desk σ) (requested : List String) :
    (∀ id o, Plan.Spares (d.session.planFor none requested o).1 (foundRow? b id o requested d) o
      (find b id o requested d).1) ∧
    (∀ o, Plan.Spares (d.session.planFor (some d.session.query.aliases) requested o).1
      (firstRow? b o requested d) o (first b o requested d).1) ∧
    ∀ fresh objects, (all b fresh requested d).1 = .ok objects →
      ∀ path f, fresh.at? path = some f → f.isLeaf →
      (∀ p, (d.session.planFor (some d.session.query.aliases) requested fresh).1 = .ok p →
        ¬ p.Reads path) →
      ∀ o ∈ objects, o.at? path = some f ∨ o.at? path = some f.allocate.1 := by
  refine ⟨fun id o => ?_, fun o => ?_, fun fresh objects h path f hf hleaf hreads o ho => ?_⟩
  · exact spares_load planFor_snd fun p hp => fits_of_planFor hp
  · exact spares_load planFor_snd fun p hp => fits_of_planFor hp
  · rw [all, terminal_fst] at h
    obtain ⟨s, hs, h⟩ := ok_of_bind h
    obtain rfl := Except.ok.inj hs
    obtain ⟨p, hp, h⟩ := ok_of_bind h
    obtain ⟨sql, -, h⟩ := ok_of_bind h
    obtain ⟨c, -, h⟩ := ok_of_bind h
    obtain ⟨-, hfits⟩ := fits_of_planFor hp
    have hrows : ∀ g, fresh.allocate.state.at? path = some g → g.object? = none →
        o.at? path = some g := fun g hg hobject =>
      Plan.at?_loadRows hfits (.refl hfits) h hg hobject (hreads p hp) o ho
    rcases Object.at?_allocate hf hleaf with hsame | hfilled
    · exact .inl (hrows f hsame (f.object?_eq_none_of_isLeaf hleaf))
    · have hobject := f.allocate.1.object?_eq_none_of_isLeaf (f.isLeaf_allocate hleaf)
      exact .inr (hrows _ hfilled hobject)

/-- A user with a name, whose email is as given. -/
def newcomer (name : String) (email : Field) : Object :=
  { label := "User", typeName := "", table := "users", primaryKey := "id"
    members :=
      [.field "id" "col:id" (.scalar (.boolean true)),
        .field "name" "col:name" (.scalar (.text name)),
        .field "email" "col:email" email] }

/-- An email that is absent or present. -/
def emailField (email : Option String) : Field :=
  .optional .text "String" (some (.scalar (.text ""))) (email.map fun s => .scalar (.text s))

/-- A session whose backend answers the next query with some rows. -/
def answering (rows : List (List Value)) : Desk Script :=
  { session := { naming := .snake, sharesCache := false, sink := none, query := .empty .mysql }
    link := { backend := { results := [(["id", "name"], rows)] } } }

theorem loading_spares_newcomer :
    ∃ objects, (all Script.backend (newcomer "" (emailField none)) ["id"]
        (answering [[.boolean (some true)], [.boolean none]])).1 = .ok objects ∧
      objects.length = 2 ∧ ∀ o ∈ objects,
        o.at? [2] = some (emailField none) ∨ o.at? [2] = some (emailField none).allocate.1 := by
  refine ⟨_, rfl, rfl, ?_⟩
  have hspares := loading_spares Script.backend
    (answering [[.boolean (some true)], [.boolean none]]) ["id"]
  refine hspares.2.2 (newcomer "" (emailField none)) _ rfl [2] _ rfl rfl ?_
  intro p hp
  obtain rfl := Except.ok.inj hp
  rintro ⟨f, hf, hpath, hcolumn⟩
  revert f
  decide +kernel

/-- Loading may change leaves that no row has a value for: an absent one is filled although no row
is found, and one behind the end of the row is emptied. -/
theorem not_left_alone :
    let before := newcomer "ann" (emailField none)
    let filled := newcomer "ann" (emailField (some ""))
    let emptied := newcomer "" (emailField (some ""))
    (find Script.backend (.boolean none) before ["id"] (answering [])).1 = (.ok false, filled) ∧
      filled.at? [2] ≠ before.at? [2] ∧
      (find Script.backend (.boolean none) before ["id", "name"]
        (answering [[.boolean (some true)]])).1 = (.ok true, emptied) ∧
      emptied.at? [1] ≠ before.at? [1] := by
  refine ⟨rfl, ?_, rfl, ?_⟩
  · simp [newcomer, emailField, Object.at?_cons, Object.field?, Field.at?]
  · simp [newcomer, emailField, Object.at?_cons, Object.field?, Field.at?]

end Session

end SqlMapping
