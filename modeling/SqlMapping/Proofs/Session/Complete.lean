import SqlMapping.Proofs.Mapping.Rereading
import SqlMapping.Proofs.Session.Rows

/-! # Loading without given columns

A select without given columns names all that are mapped, and its rows are read by these names. If
they are plain, each member takes the value of its column; otherwise some member takes none. -/

namespace SqlMapping

open scoped List

variable {o o' : Object} {row : List Value}

/-! ## A row -/

namespace Mapping

variable {m m₀ : Mapping} {j : Nat} {f : MappedField} {g : Field} {v : Value}

/-- Read by plain columns, a row gives its values to the members of the fields in their order. -/
theorem at?_assign_scan_columns (hnodup : m.columns.Nodup) (hapart : ApartFields m.fields)
    (hplain : ∀ c ∈ m.columns, Alias.Plain c)
    (hok : (m.scan (m.places m.columns) row).assign o = ⟨o', none⟩) (hf : m.fields[j]? = some f)
    (hne : f.path ≠ []) (hg : o.at? f.path = some g) (hv : row[j]? = some v) :
    o'.at? f.path = some (g.assign v).state := by
  have hscanned : f.scannedAt row (some j) ∈
      (m.scan (m.places m.columns) row).fields.filter MappedField.scanned := by
    obtain ⟨hlt, rfl⟩ := List.getElem?_eq_some_iff.mp hf
    rw [fields_scan_columns hnodup hplain, List.mem_filter]
    exact ⟨List.mem_mapIdx.mpr ⟨j, hlt, rfl⟩, rfl⟩
  have happart : ApartFields (m.scan (m.places m.columns) row).fields := by
    rw [fields_scan_places hnodup]
    exact hapart.map_scannedAt row _
  have hassigned := at?_assignAll_of_mem (happart.filter _) hscanned (by simpa using hg)
    (by simpa using hne)
  rw [← assign_eq, hok] at hassigned
  rcases hassigned with hassigned | ⟨hfailed, -⟩
  · simpa [MappedField.scannedAt, hv] using hassigned
  · exact absurd rfl hfailed

/-- What a row that is read by all mapped columns makes of an object. -/
structure LoadedBy (m : Mapping) (row : List Value) (o o' : Object) : Prop where
  /-- Each member takes the value of its column if the columns are plain. -/
  taken : (∀ c ∈ m.columns, Alias.Plain c) → ∀ (j : Nat) (f : MappedField) (v : Value),
    m.fields[j]? = some f → row[j]? = some v →
      o'.at? f.path = (o.at? f.path).map fun g => (g.assign v).state
  /-- Otherwise there is a column that no name finds again, and its member takes no value. -/
  missed : (¬ ∀ c ∈ m.columns, Alias.Plain c) →
    ∃ f ∈ m.fields, f.column ∉ names m.columns ∧ o'.at? f.path = o.at? f.path

/-- A mapping from which rows were scanned by all of its columns. -/
structure Rescanned (m₀ m : Mapping) : Prop where
  tracks : m₀.Tracks m₀.columns m
  fields : m.fields.map (fun f => (f.column, f.path)) = m₀.fields.map fun f => (f.column, f.path)

namespace Rescanned

theorem refl (h : m.Fits o) : m.Rescanned m :=
  ⟨.refl h, rfl⟩

theorem columns_eq (h : m₀.Rescanned m) : m.columns = m₀.columns := by
  simpa [Mapping.columns, Function.comp_def] using congrArg (List.map Prod.fst) h.fields

theorem apart (h : m₀.Rescanned m) (hapart : ApartFields m₀.fields) : ApartFields m.fields := by
  have hpaths : m.fields.map MappedField.path = m₀.fields.map MappedField.path := by
    simpa [Function.comp_def] using congrArg (List.map Prod.snd) h.fields
  rw [ApartFields, ← List.pairwise_map (f := MappedField.path) (R := Apart)] at hapart ⊢
  rwa [hpaths]

theorem scan (h : m₀.Rescanned m) (row : List Value) :
    m₀.Rescanned (m.scan (m.places m₀.columns) row) where
  tracks := h.tracks.scan row
  fields := by
    rw [← h.fields, fields_scan_places h.tracks.nodup]
    simp [Function.comp_def]

theorem loadedBy (h : m₀.Rescanned m) (hfits : m₀.Fits o)
    (hok : (m.scan (m.places m₀.columns) row).assign o = ⟨o', none⟩) : m₀.LoadedBy row o o' where
  taken hplain j f₀ v hf₀ hv := by
    rw [← h.columns_eq] at hok hplain
    obtain ⟨f, hf, hpath⟩ : ∃ f, m.fields[j]? = some f ∧ f.path = f₀.path := by
      have hfield := congrArg (·[j]?) h.fields
      simp only [List.getElem?_map, hf₀, Option.map_some, Option.map_eq_some_iff,
        Prod.mk.injEq] at hfield
      obtain ⟨f, hf, -, hpath⟩ := hfield
      exact ⟨f, hf, hpath⟩
    have hmem := List.mem_of_getElem? hf₀
    obtain ⟨g, hg, -, -⟩ := hfits.at?_path hmem
    rw [← hpath] at hg ⊢
    rw [hg, Option.map_some]
    exact at?_assign_scan_columns h.tracks.nodup (h.apart hfits.apart) hplain hok hf
      (hpath ▸ hfits.path_ne_nil hmem) hg hv
  missed hplain := by
    rw [← subset_names_iff hfits.nodup, List.subset_def] at hplain
    push Not at hplain
    obtain ⟨c, hc, hunnamed⟩ := hplain
    obtain ⟨f, hf, rfl⟩ := List.mem_map.mp hc
    obtain ⟨g, hg, hobject, -⟩ := hfits.at?_path hf
    refine ⟨f, hf, hunnamed, ?_⟩
    have hunread : ¬ ∃ f₀ ∈ m₀.fields, f₀.path = f.path ∧ f₀.column ∈ names m₀.columns := by
      rintro ⟨f₀, hf₀, hpath, hnamed⟩
      exact hunnamed (hfits.eq_of_path hf₀ hf hpath ▸ hnamed)
    have hkept := (h.tracks.scan row).at?_assign hfits hg hobject hunread
    rw [hok] at hkept
    rw [hkept, hg]

end Rescanned

end Mapping

/-! ## Plans -/

namespace Plan

variable {p : Plan} {c : Cursor} {m m₀ : Mapping}

theorem columns_ofObject {naming : Naming} {aliases : Option (List (String × String))} {q : Query}
    (hq : q.columns = []) (h : (ofObject naming aliases q [] o).1 = .ok p) :
    p.columns = p.mapping.columns := by
  rw [ofObject] at h
  split at h
  · cases h
  · obtain rfl := Except.ok.inj h
    have hcolumns : ∀ text, (q.setTable text).columns = q.columns := fun _ => rfl
    split <;> simp [choose, hcolumns, hq]

/-- An object is loaded from the first row that there is. -/
theorem loadFirst_eq_true (h : p.loadFirst c o = (.ok true, o')) :
    ∃ row, c.rows.head? = some row ∧
      (p.mapping.scan (p.mapping.places p.columns) row).assign o = ⟨o', none⟩ := by
  rw [loadFirst] at h
  split at h
  · cases h
  · cases h
  · rename_i row hnext
    obtain ⟨hresult, rfl⟩ := Prod.mk.inj h
    obtain ⟨u, hu, -⟩ := Result.map_eq_ok.mp hresult
    exact ⟨row, c.head?_of_next hnext, Attempt.result_eq_ok.mp hu⟩

/-- Each object is loaded from its own row. -/
theorem loadedBy_loadRows {fresh : Object} {ending : Option Failure} {rows : List (List Value)}
    {objects : List Object} (hfits : m₀.Fits fresh.allocate.state) (hm : m₀.Rescanned m)
    (h : loadRows fresh m₀.columns ending m rows = .ok objects) :
    List.Forall₂ (fun row o' => m₀.LoadedBy row fresh.allocate.state o') rows objects := by
  induction rows generalizing m objects with
  | nil =>
      cases ending with
      | some e => cases h
      | none =>
          obtain rfl := Except.ok.inj h
          exact .nil
  | cons row rows ih =>
      rw [loadRows_cons] at h
      obtain ⟨o', ho', h⟩ := Result.bind_eq_ok.mp h
      obtain ⟨rest, hrest, h⟩ := Result.bind_eq_ok.mp h
      obtain rfl := Except.ok.inj h
      rw [loadRow] at ho'
      obtain ⟨_, -, ho'⟩ := Result.bind_eq_ok.mp ho'
      obtain ⟨_, hassigned, ho'⟩ := Result.bind_eq_ok.mp ho'
      obtain rfl := Except.ok.inj ho'
      exact .cons (hm.loadedBy hfits (Attempt.result_eq_ok.mp hassigned)) (ih (hm.scan row) hrest)

end Plan

/-! ## Loads -/

namespace Session

variable {σ : Type} {b : Backend σ} {d : Desk σ} {s : Session} {p : Plan}
  {aliases : Option (List (String × String))} {statement : Plan → Result (Sql × List Value)}

theorem columns_of_planFor (hq : s.query.columns = [])
    (h : (s.planFor aliases [] o).1 = .ok p) : p.columns = p.mapping.columns := by
  rw [ofObject_of_planFor h] at h
  exact Plan.columns_ofObject hq h

theorem loadedBy_load (hq : s.query.columns = [])
    (h : (load b (s.planFor aliases [] o) statement d).1 = (.ok true, o')) :
    ∃ p row, (s.planFor aliases [] o).1 = .ok p ∧
      returned? b (s.planFor aliases [] o).1 statement d = some row ∧
        p.mapping.LoadedBy row o.allocate.state o' := by
  rw [load_eq] at h
  rcases hfetch : (fetch b (s.planFor aliases [] o).1 statement d).1 with e | ⟨p, c⟩
  · simp [hfetch] at h
  · have hplan := plan_of_fetch hfetch
    obtain ⟨hfilled, hfits⟩ := fits_of_planFor hplan
    simp only [hfetch, hfilled] at h
    obtain ⟨row, hrow, hassigned⟩ := Plan.loadFirst_eq_true h
    rw [columns_of_planFor hq hplan] at hassigned
    refine ⟨p, row, hplan, ?_, (Mapping.Rescanned.refl hfits).loadedBy hfits hassigned⟩
    simpa [returned?, hfetch, Except.toOption] using hrow

theorem loadedBy_all (hq : d.session.query.columns = []) {objects : List Object}
    (h : (all b o [] d).1 = .ok objects) :
    ∃ p c, (selected b o [] d).1 = .ok (p, c) ∧
      List.Forall₂ (fun row o' => p.mapping.LoadedBy row o.allocate.state o') c.rows objects := by
  rw [all_eq, fst_terminal_yield] at h
  obtain ⟨⟨p, c⟩, hselected, h⟩ := Result.bind_eq_ok.mp h
  have hplan := plan_of_selected b hselected
  have hfits := (fits_of_planFor hplan).2
  simp only [columns_of_planFor hq hplan] at h
  exact ⟨p, c, hselected, Plan.loadedBy_loadRows hfits (.refl hfits) h⟩

/-- A mapping finds its columns again by their names just if they are plain; it then scans rows as
if it read them in the order of its fields. Loads without given columns read rows by these names, so
that with columns that are not plain a member is left out. -/
theorem loads_mapped_iff_plain (b : Backend σ) (d : Desk σ) (o : Object) :
    (∀ (m₀ m : Mapping) (o' : Object), m₀.parseSelect o = ⟨(m, o'), none⟩ →
      (m.places m.columns = m.allPlaces ↔ ∀ c ∈ m.columns, Alias.Plain c) ∧
        ∀ row, m.scan (m.places m.columns) row = m.scan m.allPlaces row ↔
          ∀ c ∈ m.columns, Alias.Plain c) ∧
    (d.session.query.columns = [] →
      (∀ id o', (find b id o [] d).1 = (.ok true, o') →
        ∃ p row, (d.session.planFor none [] o).1 = .ok p ∧ foundRow? b id o [] d = some row ∧
          p.mapping.LoadedBy row o.allocate.state o') ∧
      (∀ o', (first b o [] d).1 = (.ok true, o') →
        ∃ p row, (d.session.planFor (some d.session.query.aliases) [] o).1 = .ok p ∧
          firstRow? b o [] d = some row ∧ p.mapping.LoadedBy row o.allocate.state o') ∧
      ∀ objects, (all b o [] d).1 = .ok objects →
        ∃ p c, (selected b o [] d).1 = .ok (p, c) ∧ List.Forall₂
          (fun row o' => p.mapping.LoadedBy row o.allocate.state o') c.rows objects) := by
  constructor
  · intro m₀ m o' h
    have hfits := Mapping.fits_of_parse (Mapping.parseSelect_eq_ok.mp h).2
    exact ⟨Mapping.places_columns_eq_iff hfits.nodup, Mapping.scan_columns_eq_iff hfits⟩
  · intro hq
    refine ⟨fun id o' h => ?_, fun o' h => ?_, fun objects h => loadedBy_all hq h⟩
    · exact loadedBy_load hq h
    · exact loadedBy_load hq h

/-- A user whose name is read under an alias. -/
def renamedUser (id : Bool) (name : String) : Object :=
  { label := "User", typeName := "", table := "users", primaryKey := "id"
    members :=
      [.field "id" "col:id" (.scalar (.boolean id)),
        .field "name" "col:name as n" (.scalar (.text name))] }

/-- A session whose backend has a row with the name. -/
def foundAnn : Desk Script :=
  answering [[.boolean (some true), .text (some "ann")]]

/-- The name is selected and found, but the user does not get it. -/
theorem find_misses_renamedUser :
    foundAnn.session.query.columns = [] ∧
      (find Script.backend (.boolean none) (renamedUser false "") [] foundAnn).1 =
        (.ok true, renamedUser true "") ∧
      ∃ p : Plan, p.mapping.columns = ["id", "name as n"] ∧
        (¬ ∀ c ∈ p.mapping.columns, Alias.Plain c) ∧
        p.mapping.LoadedBy [.boolean (some true), .text (some "ann")]
          (renamedUser false "").allocate.state (renamedUser true "") := by
  have hfind : (find Script.backend (.boolean none) (renamedUser false "") [] foundAnn).1 =
      (.ok true, renamedUser true "") := rfl
  obtain ⟨p, row, hplan, hrow, hloaded⟩ :=
    ((loads_mapped_iff_plain Script.backend foundAnn (renamedUser false "")).2 rfl).1 _ _ hfind
  obtain rfl := Except.ok.inj hplan
  obtain rfl := Option.some.inj hrow
  exact ⟨rfl, hfind, _, by decide +kernel, by decide +kernel, hloaded⟩

end Session

end SqlMapping
