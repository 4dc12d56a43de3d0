import Mathlib.Data.List.Basic
import Mathlib.Data.List.Induction
import SqlMapping.Mapping.Basic
import SqlMapping.Proofs.Attempt

/-! # Mapped columns

A mapping has one field for each column: it stands where the column was met first, and is the leaf
that was met last. -/

namespace SqlMapping.Mapping

/-! ## Leaves by column -/

theorem find?_putField (f : MappedField) (fs : List MappedField) (c : String) :
    (putField f fs).find? (·.column = c) =
      if f.column = c then some f else fs.find? (·.column = c) := by
  induction fs with
  | nil => by_cases hc : f.column = c <;> simp [putField, hc]
  | cons g gs ih =>
      by_cases hg : g.column = f.column
      · by_cases hc : f.column = c <;> simp [putField, hg, hc]
      · by_cases hc : f.column = c
        · have hgc : g.column ≠ c := fun h => hg (h.trans hc.symm)
          simpa [putField, hg, hc, hgc] using ih
        · rw [putField, if_neg hg, List.find?_cons, List.find?_cons, ih, if_neg hc, if_neg hc]

theorem mem_of_mem_putField {f g : MappedField} {fs : List MappedField}
    (h : g ∈ putField f fs) : g = f ∨ g ∈ fs := by
  induction fs with
  | nil => exact .inl (by simpa [putField] using h)
  | cons k ks ih =>
      simp only [putField] at h
      split at h
      · rcases List.mem_cons.mp h with rfl | h
        · exact .inl rfl
        · exact .inr (List.mem_cons_of_mem k h)
      · rcases List.mem_cons.mp h with rfl | h
        · exact .inr List.mem_cons_self
        · exact (ih h).imp id (List.mem_cons_of_mem k)

theorem nodup_putField {f : MappedField} {fs : List MappedField}
    (h : (fs.map MappedField.column).Nodup) :
    ((putField f fs).map MappedField.column).Nodup := by
  induction fs with
  | nil => simp [putField]
  | cons g gs ih =>
      obtain ⟨hg, hgs⟩ := List.nodup_cons.mp h
      simp only [putField]
      split
      · rename_i hc
        simpa [← hc] using h
      · rename_i hc
        refine List.nodup_cons.mpr ⟨?_, ih hgs⟩
        intro hmem
        obtain ⟨k, hk, hcolumn⟩ := List.mem_map.mp hmem
        rcases mem_of_mem_putField hk with rfl | hk
        · exact hc hcolumn.symm
        · exact hg (List.mem_map.mpr ⟨k, hk, hcolumn⟩)

theorem putField_of_not_mem {f : MappedField} {fs : List MappedField}
    (h : f.column ∉ fs.map MappedField.column) : putField f fs = fs ++ [f] := by
  induction fs with
  | nil => rfl
  | cons g gs ih =>
      obtain ⟨hg, hgs⟩ : ¬ f.column = g.column ∧ f.column ∉ gs.map MappedField.column := by
        simpa using h
      simp [putField, Ne.symm hg, ih hgs]

/-- The field of a column is the leaf that was met last. -/
theorem find?_collect (leaves : List MappedField) (c : String) :
    (collect leaves).find? (·.column = c) = leaves.reverse.find? (·.column = c) := by
  have hfrom : ∀ fs, (leaves.foldl (fun fs f => putField f fs) fs).find? (·.column = c) =
      (leaves.reverse.find? (·.column = c)).or (fs.find? (·.column = c)) := by
    induction leaves with
    | nil => simp
    | cons f leaves ih =>
        intro fs
        rw [List.foldl_cons, ih, find?_putField, List.reverse_cons, List.find?_append]
        by_cases hc : f.column = c <;> cases leaves.reverse.find? (·.column = c) <;> simp [hc]
  simpa [collect] using hfrom []

theorem nodup_columns_collect (leaves : List MappedField) :
    ((collect leaves).map MappedField.column).Nodup := by
  have hfrom : ∀ fs : List MappedField, (fs.map MappedField.column).Nodup →
      ((leaves.foldl (fun fs f => putField f fs) fs).map MappedField.column).Nodup := by
    induction leaves with
    | nil => exact fun _ h => h
    | cons f leaves ih => exact fun fs h => ih _ (nodup_putField h)
  exact hfrom [] List.nodup_nil

/-- Leaves of different columns stay as they are. -/
theorem collect_of_nodup {leaves : List MappedField}
    (h : (leaves.map MappedField.column).Nodup) : collect leaves = leaves := by
  have hfrom : ∀ fs : List MappedField, ((fs ++ leaves).map MappedField.column).Nodup →
      leaves.foldl (fun fs f => putField f fs) fs = fs ++ leaves := by
    induction leaves with
    | nil => simp
    | cons f leaves ih =>
        intro fs hfs
        have hsplit : fs ++ f :: leaves = fs ++ [f] ++ leaves := by simp
        have hnew : f.column ∉ fs.map MappedField.column := by
          rw [List.map_append, List.nodup_append] at hfs
          intro hmem
          exact hfs.2.2 _ hmem _ (by simp) rfl
        rw [List.foldl_cons, putField_of_not_mem hnew, hsplit]
        exact ih (List.nodup_cons.mp h).2 _ (hsplit ▸ hfs)
  exact hfrom [] h

/-- Leaves by column: the columns in the order in which they are first met, each with the leaf that
is met last. -/
def byColumn (leaves : List MappedField) : List MappedField :=
  (leaves.map MappedField.column).eraseDups.filterMap fun c => leaves.reverse.find? (·.column = c)

theorem map_column_putField (f : MappedField) (fs : List MappedField) :
    (putField f fs).map MappedField.column =
      if f.column ∈ fs.map MappedField.column then fs.map MappedField.column
      else fs.map MappedField.column ++ [f.column] := by
  induction fs with
  | nil => rfl
  | cons g gs ih =>
      by_cases hg : g.column = f.column
      · simp [putField, hg]
      · rw [putField, if_neg hg, List.map_cons, ih, List.map_cons]
        by_cases hf : f.column ∈ gs.map MappedField.column
        · rw [if_pos hf, if_pos (List.mem_cons_of_mem _ hf)]
        · have hnew : f.column ∉ g.column :: gs.map MappedField.column := fun h =>
            (List.mem_cons.mp h).elim (fun h => hg h.symm) hf
          rw [if_neg hf, if_neg hnew, List.cons_append]

theorem map_column_collect (leaves : List MappedField) :
    (collect leaves).map MappedField.column = (leaves.map MappedField.column).eraseDups := by
  induction leaves using List.reverseRecOn with
  | nil => rfl
  | append_singleton leaves f ih =>
      have hput : collect (leaves ++ [f]) = putField f (collect leaves) := by simp [collect]
      rw [hput, map_column_putField, ih, List.map_append, List.eraseDups_append, List.map_singleton]
      generalize leaves.map MappedField.column = columns
      by_cases hf : f.column ∈ columns
      · simp [hf, List.removeAll]
      · simp [hf, List.removeAll, List.eraseDups_cons]

/-- Fields of different columns are found by these. -/
theorem filterMap_find?_column {fs : List MappedField} (h : (fs.map MappedField.column).Nodup) :
    (fs.map MappedField.column).filterMap (fun c => fs.find? (·.column = c)) = fs := by
  induction fs with
  | nil => rfl
  | cons g gs ih =>
      obtain ⟨hg, hgs⟩ := List.nodup_cons.mp h
      have htail : ∀ c ∈ gs.map MappedField.column,
          (g :: gs).find? (·.column = c) = gs.find? (·.column = c) := by
        intro c hc
        have hne : g.column ≠ c := fun h => hg (h ▸ hc)
        simp [hne]
      rw [List.map_cons, List.filterMap_cons, List.filterMap_congr htail, ih hgs]
      simp

theorem collect_eq_byColumn (leaves : List MappedField) : collect leaves = byColumn leaves := by
  rw [byColumn, ← map_column_collect]
  simp only [← find?_collect]
  exact (filterMap_find?_column (nodup_columns_collect leaves)).symm

/-! ## The fields of a mapping -/

variable {m m' : Mapping} {mode : Mode} {o : Object}

/-- The leaves that a mapping visits in an object. -/
def leavesOf (m : Mapping) (o : Object) : List MappedField :=
  (o.visit (m.scope m.mode) (if m.mode = .insert then "" else m.table.aliasName) []).state

theorem mem_fields_iff (h : (m.fields.map MappedField.column).Nodup) {f : MappedField} :
    f ∈ m.fields ↔ m.field? f.column = some f := by
  unfold field?
  generalize m.fields = fs at h
  induction fs with
  | nil => simp
  | cons g gs ih =>
      obtain ⟨hg, hgs⟩ := List.nodup_cons.mp h
      by_cases hc : g.column = f.column
      · have hnot : f ∉ gs := fun hmem => hg (List.mem_map.mpr ⟨f, hmem, hc.symm⟩)
        simp [hc, hnot, eq_comm]
      · have hne : f ≠ g := fun h => hc (h ▸ rfl)
        simp [hc, hne, ih hgs]

/-- An object is mapped if it has members, its table is known and every leaf can be visited. -/
theorem parse_eq_ok : m.parse mode o = ⟨m', none⟩ ↔
    o.members.isEmpty = false ∧
      ∃ table, (if m.tableGiven then .ok m.table else m.resolveTable mode o) = .ok table ∧
        ∃ leaves,
          o.visit (m.scope mode) (if mode = .insert then "" else table.aliasName) [] =
            ⟨leaves, none⟩ ∧
          { m with mode, table, primaryKey := o.primaryKey, fields := collect leaves } = m' := by
  have htable : (if m.tableGiven then .ok m.table
      else resolveTable { m with mode, fields := [] } mode o : Result TableRef) =
        if m.tableGiven then .ok m.table else m.resolveTable mode o := rfl
  cases hmembers : o.members.isEmpty with
  | true => simp [parse, hmembers]
  | false =>
      simp only [parse, hmembers, Bool.false_eq_true, if_false, htable, true_and]
      cases (if m.tableGiven then .ok m.table else m.resolveTable mode o : Result TableRef) with
      | error e => simp
      | ok table =>
          have hvisit := Attempt.map_eq_ok (b := m')
            (a := o.visit (m.scope mode) (if mode = .insert then "" else table.aliasName) [])
            (f := fun leaves =>
              { m with mode, table, primaryKey := o.primaryKey, fields := collect leaves })
          simpa [scope] using hvisit

theorem fields_of_parse (h : m.parse mode o = ⟨m', none⟩) :
    m'.fields = collect (m'.leavesOf o) := by
  obtain ⟨-, table, -, leaves, hleaves, rfl⟩ := parse_eq_ok.mp h
  simpa [leavesOf, scope] using congrArg (fun v : Visit => collect v.state) hleaves.symm

end SqlMapping.Mapping
