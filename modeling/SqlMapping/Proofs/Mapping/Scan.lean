import SqlMapping.Mapping.Scan
import SqlMapping.Proofs.Mapping.Fields

/-! # Rows in mapped members

A row is scanned into the fields whose columns it has, and assigned from there to the members at
the paths of these fields. -/

namespace SqlMapping

/-- A field after a row in which its column has a place, if it has one. -/
def MappedField.scannedAt (row : List Value) (f : MappedField) : Option Nat → MappedField
  | none => f
  | some i => { f with scanned := true, buffer := row[i]?.getD f.buffer }

namespace MappedField

variable {row : List Value} {f : MappedField} {place : Option Nat}

@[simp] theorem column_scannedAt : (f.scannedAt row place).column = f.column := by
  cases place <;> rfl

@[simp] theorem path_scannedAt : (f.scannedAt row place).path = f.path := by
  cases place <;> rfl

end MappedField

theorem ApartFields.map_scannedAt {fs : List MappedField} (h : ApartFields fs) (row : List Value)
    (place : MappedField → Option Nat) :
    ApartFields (fs.map fun f => f.scannedAt row (place f)) := by
  refine List.pairwise_map.mpr (h.imp fun {f g} hfg => ?_)
  rwa [MappedField.path_scannedAt, MappedField.path_scannedAt]

namespace Mapping

/-! ## Scanning a row -/

variable {m : Mapping} {j : Nat}

theorem getElem?_store {ps : List (Option Nat)} (h : (ps.filterMap id).Nodup) (row : List Value)
    (fields : List MappedField) :
    (store ps row fields)[j]? = fields[j]?.map fun f => f.scannedAt row (ps.idxOf? (some j)) := by
  induction ps generalizing row fields with
  | nil => simp [store, MappedField.scannedAt]
  | cons p ps ih =>
      cases p with
      | none =>
          rw [store, ih h, List.idxOf?_cons]
          cases ps.idxOf? (some j) <;> simp [MappedField.scannedAt]
      | some i =>
          obtain ⟨hi, hps⟩ := List.nodup_cons.mp h
          rw [store, ih hps, List.idxOf?_cons]
          by_cases hij : i = j
          case pos =>
              subst hij
              have hnone : ps.idxOf? (some i) = none := by
                simpa [List.idxOf?_eq_none_iff] using hi
              cases hf : fields[i]? <;>
                simp [hf, hnone, MappedField.scannedAt, List.head?_eq_getElem?]
          case neg =>
              cases ps.idxOf? (some j) <;> simp [MappedField.scannedAt, hij]

/-- The names of columns, without their aliases. -/
def names (columns : List String) : List String :=
  columns.map fun c => (Alias.split c).1

theorem nodup_placesFrom (columns : List String) (taken : List Nat) :
    ((m.placesFrom taken columns).filterMap id).Nodup ∧
      ∀ i ∈ (m.placesFrom taken columns).filterMap id, i ∉ taken := by
  induction columns generalizing taken with
  | nil => simp [placesFrom]
  | cons c cs ih =>
      rw [placesFrom]
      split
      case h_1 i _ =>
          split
          · simpa using ih taken
          · rename_i hi
            obtain ⟨hnodup, hnot⟩ := ih (i :: taken)
            simp at hnot ⊢
            grind
      case h_2 => simpa using ih taken

theorem idxOf?_eq_some_iff_eq {cs : List String} {c : String} (h : cs.Nodup)
    (hc : cs[j]? = some c) (name : String) : cs.idxOf? name = some j ↔ name = c := by
  obtain ⟨hj, rfl⟩ := List.getElem?_eq_some_iff.mp hc
  rw [List.idxOf?_eq_some_iff]
  constructor
  · rintro ⟨_, rfl, _⟩
    rfl
  · rintro rfl
    exact ⟨hj, rfl, fun i hi heq => Nat.ne_of_lt hi ((List.getElem_inj h).mp heq)⟩

/-- The place of a field is the first of the columns that name it, unless it is taken. -/
theorem idxOf?_placesFrom {c : String} (hnodup : m.columns.Nodup) (hc : m.columns[j]? = some c)
    (columns : List String) (taken : List Nat) :
    (m.placesFrom taken columns).idxOf? (some j) =
      if j ∈ taken then none else (names columns).idxOf? c := by
  induction columns generalizing taken with
  | nil => simp [placesFrom, names]
  | cons column columns ih =>
      have hname := idxOf?_eq_some_iff_eq hnodup hc (Alias.split column).1
      rw [placesFrom, names, List.map_cons, List.idxOf?_cons]
      cases hi : m.columns.idxOf? (Alias.split column).1 with
      | none =>
          have hne : (Alias.split column).1 ≠ c := fun h => by simp [hname.mpr h] at hi
          by_cases hj : j ∈ taken <;> simp [List.idxOf?_cons, ih, hj, hne, names]
      | some i =>
          rw [hi, Option.some.injEq] at hname
          by_cases htaken : i ∈ taken
          case pos =>
              by_cases hj : j ∈ taken
              case pos => simp [List.idxOf?_cons, ih, hj, htaken]
              case neg =>
                  have hne : (Alias.split column).1 ≠ c := fun h => hj (hname.mpr h ▸ htaken)
                  simp [List.idxOf?_cons, ih, hj, htaken, hne, names]
          case neg =>
              by_cases hij : i = j
              case pos => simp [List.idxOf?_cons, htaken, hname.mp hij, ← hij]
              case neg =>
                  have hne : (Alias.split column).1 ≠ c := fun h => hij (hname.mpr h)
                  have hji : j ≠ i := Ne.symm hij
                  by_cases hj : j ∈ taken <;>
                    simp [List.idxOf?_cons, ih, hj, htaken, hne, hij, hji, names]

/-- A row goes to the fields that the columns name, each from the first of its columns. -/
theorem fields_scan_places (h : m.columns.Nodup) (columns : List String) (row : List Value) :
    (m.scan (m.places columns) row).fields =
      m.fields.map fun f => f.scannedAt row ((names columns).idxOf? f.column) := by
  apply List.ext_getElem?
  intro j
  have hnodup := (m.nodup_placesFrom columns []).1
  rw [scan, places, getElem?_store hnodup, List.getElem?_map]
  cases hj : m.fields[j]? with
  | none => rfl
  | some f =>
      have hc : m.columns[j]? = some f.column := by simp [Mapping.columns, hj]
      rw [Option.map_some, Option.map_some, idxOf?_placesFrom h hc columns []]
      simp

theorem columns_scan (h : m.columns.Nodup) (columns : List String) (row : List Value) :
    (m.scan (m.places columns) row).columns = m.columns := by
  rw [Mapping.columns, fields_scan_places h]
  simp [Mapping.columns, Function.comp_def]

theorem fields_scan_allPlaces (row : List Value) :
    (m.scan m.allPlaces row).fields = m.fields.mapIdx fun j f => f.scannedAt row (some j) := by
  have hnodup : (m.allPlaces.filterMap id).Nodup := by
    simpa [allPlaces, List.filterMap_map] using List.nodup_range
  apply List.ext_getElem?
  intro j
  rw [scan, getElem?_store hnodup, List.getElem?_mapIdx]
  cases hj : m.fields[j]? with
  | none => rfl
  | some f =>
      have hplace : m.allPlaces.idxOf? (some j) = some j := by
        obtain ⟨hlt, -⟩ := List.getElem?_eq_some_iff.mp hj
        rw [List.idxOf?_eq_some_iff]
        refine ⟨by simpa [allPlaces] using hlt, by simp [allPlaces], fun i hi => ?_⟩
        simp [allPlaces, Nat.ne_of_lt hi]
      rw [hplace]

theorem fields_scan_allPlaces_of_length {row : List Value}
    (h : row.length = m.fields.length) :
    (m.scan m.allPlaces row).fields =
      List.zipWith (fun f v => { f with scanned := true, buffer := v }) m.fields row := by
  rw [fields_scan_allPlaces]
  apply List.ext_getElem?
  intro j
  rw [List.getElem?_mapIdx, List.getElem?_zipWith]
  cases hf : m.fields[j]? with
  | none => rfl
  | some f =>
      obtain ⟨hlt, -⟩ := List.getElem?_eq_some_iff.mp hf
      have hv : row[j]? = some row[j] := List.getElem?_eq_getElem (h ▸ hlt)
      simp [hv, MappedField.scannedAt]

/-! ## Assigning to the members -/

variable {o : Object} {q : List Nat} {f : MappedField} {fs : List MappedField}

/-- Assigns fields to their members, in order, up to the first failure. -/
def assignAll (o : Object) : List MappedField → Attempt Object
  | [] => ⟨o, none⟩
  | f :: fs =>
    match assignField o f with
    | ⟨o, some e⟩ => ⟨o, some e⟩
    | ⟨o, none⟩ => assignAll o fs

theorem assign_eq (m : Mapping) (o : Object) :
    m.assign o = assignAll o (m.fields.filter MappedField.scanned) := by
  have hfailed : ∀ (fs : List MappedField) (o : Object) (e : Failure),
      fs.foldl (fun a f => Attempt.andThen a (assignField · f)) ⟨o, some e⟩ = ⟨o, some e⟩ := by
    intro fs o e
    induction fs with
    | nil => rfl
    | cons f fs ih => exact ih
  have hall : ∀ (fs : List MappedField) (o : Object),
      fs.foldl (fun a f => Attempt.andThen a (assignField · f)) ⟨o, none⟩ = assignAll o fs := by
    intro fs
    induction fs with
    | nil => exact fun _ => rfl
    | cons f fs ih =>
        intro o
        rw [List.foldl_cons, assignAll, Attempt.andThen]
        cases hf : assignField o f with
        | mk o failure =>
            cases failure with
            | none => exact ih o
            | some e => exact hfailed fs o e
  exact hall _ o

theorem at?_assignField (h : Apart f.path q) : (assignField o f).state.at? q = o.at? q := by
  unfold assignField
  split
  · rfl
  · rename_i o' e heq
    exact Object.at?_assignAt? (a := ⟨o', e⟩) heq h

/-- Members apart from those assigned to stay as they are, whether assigning succeeds or not. -/
theorem at?_assignAll (h : ∀ f ∈ fs, Apart f.path q) :
    (assignAll o fs).state.at? q = o.at? q := by
  induction fs generalizing o with
  | nil => rfl
  | cons f fs ih =>
      have hfirst := at?_assignField (o := o) (h f List.mem_cons_self)
      rw [assignAll]
      split
      · rename_i heq
        simpa [heq] using hfirst
      · rename_i heq
        rw [ih fun g hg => h g (List.mem_cons_of_mem f hg)]
        simpa [heq] using hfirst

theorem assignField_of_at? {g : Field} (hg : o.at? f.path = some g) (hne : f.path ≠ []) :
    (assignField o f).state.at? f.path = some (g.assign f.buffer).state ∧
      (assignField o f).failure =
        (g.assign f.buffer).failure.map (Failure.within (.assigning f.column)) := by
  obtain ⟨a, ha, hassigned⟩ := Object.assignAt?_of_at? (v := f.buffer) hg hne
  simp only [assignField, ha]
  exact ⟨hassigned.at_path, congrArg _ hassigned.failure⟩

/-- Each member gets what was scanned for it, unless an earlier one could not be assigned. -/
theorem at?_assignAll_of_mem {g : Field} (hapart : ApartFields fs) (hf : f ∈ fs)
    (hg : o.at? f.path = some g) (hne : f.path ≠ []) :
    (assignAll o fs).state.at? f.path = some (g.assign f.buffer).state ∨
      (assignAll o fs).failure ≠ none ∧ (assignAll o fs).state.at? f.path = some g := by
  induction fs generalizing o with
  | nil => cases hf
  | cons k fs ih =>
      obtain ⟨hk, hfs⟩ := List.pairwise_cons.mp hapart
      rw [assignAll]
      rcases List.mem_cons.mp hf with rfl | hf
      · have hassigned := (assignField_of_at? hg hne).1
        left
        split
        · rename_i heq
          simpa [heq] using hassigned
        · rename_i heq
          rw [at?_assignAll fun g hg => (hk g hg).symm]
          simpa [heq] using hassigned
      · have hsame := at?_assignField (o := o) (hk f hf)
        rw [hg] at hsame
        split
        · rename_i heq
          exact .inr ⟨by simp, by simpa [heq] using hsame⟩
        · rename_i heq
          exact ih hfs hf (by simpa [heq] using hsame)

end Mapping

end SqlMapping
