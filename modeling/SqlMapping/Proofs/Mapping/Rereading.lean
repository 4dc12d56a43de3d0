import Mathlib.Algebra.Order.BigOperators.Group.List
import Mathlib.Algebra.Order.Group.Nat
import Mathlib.Data.List.Perm.Subperm
import SqlMapping.Proofs.Alias
import SqlMapping.Proofs.Mapping.Scan

/-! # Columns that are read again

The columns of a mapping may be asked for as texts, and are then read as names with an alias. All of
them are found again just if they are plain. -/

namespace SqlMapping.Mapping

open scoped List

variable {m : Mapping} {o : Object} {columns : List String} {j : Nat}

/-! ## Names -/

theorem names_eq_self_iff : names columns = columns ↔ ∀ c ∈ columns, Alias.Plain c := by
  induction columns with
  | nil => simp [names]
  | cons c cs ih =>
      have hcons : names (c :: cs) = (Alias.split c).1 :: names cs := rfl
      simp [hcons, ih, Alias.split_fst_eq_iff]

/-- The names of different columns are all of these columns only if each is its own name: else they
would be shorter in all. -/
theorem subset_names_iff (hnodup : columns.Nodup) :
    columns ⊆ names columns ↔ ∀ c ∈ columns, Alias.Plain c := by
  constructor
  · intro hsubset
    have hperm : columns ~ names columns :=
      (hnodup.subperm hsubset).perm_of_length_le (by simp [names])
    have hsum := (hperm.map String.length).sum_eq
    rw [names, List.map_map] at hsum
    by_contra hplain
    push Not at hplain
    obtain ⟨c, hc, hplain⟩ := hplain
    have hle : ∀ c ∈ columns, (Alias.split c).1.length ≤ c.length := by
      intro c _
      rcases Alias.split_fst_eq_or_length_lt c with heq | hlt
      · exact (congrArg String.length heq).le
      · exact hlt.le
    have hlt := (Alias.split_fst_eq_or_length_lt c).resolve_left fun heq =>
      hplain (Alias.split_fst_eq_iff.mp heq)
    have hless := List.sum_lt_sum (fun c => (Alias.split c).1.length) String.length hle ⟨c, hc, hlt⟩
    exact hless.ne hsum.symm
  · exact fun hplain => (names_eq_self_iff.mpr hplain).symm ▸ List.Subset.refl columns

/-! ## Places -/

theorem length_placesFrom (columns : List String) (taken : List Nat) :
    (m.placesFrom taken columns).length = columns.length := by
  induction columns generalizing taken with
  | nil => rfl
  | cons c cs ih =>
      rw [placesFrom]
      split
      · split <;> simp [ih]
      · simp [ih]

/-- The columns of a mapping have the places of its fields just if they are plain. -/
theorem places_columns_eq_iff (hnodup : m.columns.Nodup) :
    m.places m.columns = m.allPlaces ↔ ∀ c ∈ m.columns, Alias.Plain c := by
  have hplace : ∀ j c, m.columns[j]? = some c →
      (m.places m.columns).idxOf? (some j) = (names m.columns).idxOf? c := by
    intro j c hc
    rw [places, idxOf?_placesFrom hnodup hc]
    simp
  constructor
  · intro hplaces
    rw [← subset_names_iff hnodup]
    intro c hc
    obtain ⟨j, hj⟩ := List.getElem?_of_mem hc
    obtain ⟨hlt, -⟩ := List.getElem?_eq_some_iff.mp hj
    have hgiven : some j ∈ m.places m.columns := by
      rw [hplaces]
      simpa [allPlaces, Mapping.columns] using hlt
    by_contra hc
    rw [← List.idxOf?_eq_none_iff, ← hplace j c hj, List.idxOf?_eq_none_iff] at hc
    exact hc hgiven
  · intro hplain
    rw [names_eq_self_iff.mpr hplain] at hplace
    apply List.ext_getElem
    · simp [places, length_placesFrom, allPlaces, Mapping.columns]
    · intro j hj _
      have hlt : j < m.columns.length := by simpa [places, length_placesFrom] using hj
      have hc : m.columns[j]? = some m.columns[j] := List.getElem?_eq_getElem hlt
      have hself := (idxOf?_eq_some_iff_eq hnodup hc m.columns[j]).mpr rfl
      rw [← hplace j _ hc] at hself
      obtain ⟨_, hplace, -⟩ := List.idxOf?_eq_some_iff.mp hself
      simpa [allPlaces] using hplace

/-- A row that is read by the columns of a mapping is scanned like one that is read in the order of
the fields just if the columns are plain. -/
theorem scan_columns_eq_iff (hfits : m.Fits o) (row : List Value) :
    m.scan (m.places m.columns) row = m.scan m.allPlaces row ↔
      ∀ c ∈ m.columns, Alias.Plain c := by
  constructor
  · intro hscan
    rw [← subset_names_iff hfits.nodup]
    intro c hc
    obtain ⟨j, hj⟩ := List.getElem?_of_mem hc
    obtain ⟨f, hf, rfl⟩ : ∃ f, m.fields[j]? = some f ∧ f.column = c := by
      simpa [Mapping.columns] using hj
    have hfields := congrArg (fun n : Mapping => n.fields[j]?) hscan
    simp only [fields_scan_places hfits.nodup, fields_scan_allPlaces, List.getElem?_map,
      List.getElem?_mapIdx, hf, Option.map_some, Option.some.injEq] at hfields
    -- A field that no column names is not scanned.
    by_contra hnot
    rw [List.idxOf?_eq_none_iff.mpr hnot] at hfields
    have hscanned := congrArg MappedField.scanned hfields
    rw [MappedField.scannedAt, hfits.scanned_eq_false (List.mem_of_getElem? hf)] at hscanned
    cases hscanned
  · intro hplain
    rw [(places_columns_eq_iff hfits.nodup).mpr hplain]

/-- Read by plain columns, each field takes the value in its own place. -/
theorem fields_scan_columns (hnodup : m.columns.Nodup) (hplain : ∀ c ∈ m.columns, Alias.Plain c)
    (row : List Value) :
    (m.scan (m.places m.columns) row).fields =
      m.fields.mapIdx fun j f => f.scannedAt row (some j) := by
  rw [(places_columns_eq_iff hnodup).mpr hplain, fields_scan_allPlaces]

end SqlMapping.Mapping
