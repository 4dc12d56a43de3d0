import Mathlib.Data.List.Perm.Subperm
import SqlMapping.Proofs.Mapping.Fields

/-! # Members of one column

Members of an object can resolve to the same column. A mapping has one field for it, and that field
leads to the last of these members.
-/

namespace SqlMapping.Mapping

/-! ## Leaves by column -/

theorem mem_collect_iff {leaves : List MappedField} {f : MappedField} :
    f ∈ collect leaves ↔
      ∃ before after, leaves = before ++ f :: after ∧ ∀ g ∈ after, g.column ≠ f.column := by
  have hfield : f ∈ collect leaves ↔ (collect leaves).find? (·.column = f.column) = some f :=
    mem_fields_iff (m := { naming := .snake, fields := collect leaves })
      (nodup_columns_collect leaves)
  rw [hfield, find?_collect, List.find?_eq_some_iff_append]
  constructor
  · rintro ⟨-, after, before, hsplit, hafter⟩
    refine ⟨before.reverse, after.reverse, ?_, fun g hg => ?_⟩
    · simpa using congrArg List.reverse hsplit
    · simpa using hafter g (List.mem_reverse.mp hg)
  · rintro ⟨before, after, rfl, hafter⟩
    refine ⟨by simp, after.reverse, before.reverse, by simp, fun g hg => ?_⟩
    simpa using hafter g (List.mem_reverse.mp hg)

/-- Of leaves that are all different, those are kept that no later one takes the column from. -/
theorem mem_collect_append {before after : List MappedField} {f : MappedField}
    (h : (before ++ f :: after).Nodup) :
    f ∈ collect (before ++ f :: after) ↔ ∀ g ∈ after, g.column ≠ f.column := by
  rw [mem_collect_iff]
  constructor
  · rintro ⟨before', after', hsplit, hafter⟩
    obtain ⟨-, hrest, happart⟩ := List.nodup_append.mp h
    have hbefore : f ∉ before := fun hf => happart f hf f List.mem_cons_self rfl
    obtain ⟨-, -, rfl⟩ :=
      (List.append_cons_inj_of_notMem hbefore (List.nodup_cons.mp hrest).1).mp hsplit
    exact hafter
  · exact fun hafter => ⟨before, after, rfl, hafter⟩

theorem length_collect_eq_iff {leaves : List MappedField} :
    (collect leaves).length = leaves.length ↔ (leaves.map MappedField.column).Nodup := by
  constructor
  · intro h
    have hsub : (collect leaves).map MappedField.column ⊆ leaves.map MappedField.column :=
      List.map_subset _ fun _ => mem_of_mem_collect
    have hperm : ((collect leaves).map MappedField.column).Perm (leaves.map MappedField.column) :=
      ((nodup_columns_collect leaves).subperm hsub).perm_of_length_le (by simp [h])
    exact hperm.nodup_iff.mp (nodup_columns_collect leaves)
  · intro h
    rw [collect_of_nodup h]

/-! ## What is kept of an object -/

variable {m m' : Mapping} {mode : Mode} {o : Object}

/-- The leaves of an object under the columns they resolve to. -/
def resolved (m : Mapping) (mode : Mode) (o : Object) : List MappedField :=
  (m.stops mode o).filterMap (Stop.leaf? (m.scope mode))

/-- What a mapping keeps of the leaves of an object that resolve to columns. -/
structure Keeps (m : Mapping) (o : Object) (resolved : List MappedField) : Prop where
  /-- Each leaf resolves to a column. -/
  each : Maps resolved (o.leaves [])
  /-- There is a field for each column. -/
  columns : m.columns = (resolved.map MappedField.column).eraseDups
  /-- A field is one of the leaves. -/
  leaf : ∀ f ∈ m.fields, f ∈ resolved
  /-- A leaf is left out if a later one resolves to its column. -/
  kept : ∀ before f after, resolved = before ++ f :: after →
    (f ∈ m.fields ↔ ∀ g ∈ after, g.column ≠ f.column)
  /-- No two fields lead to one member. -/
  apart : (m.fields.map MappedField.path).Nodup
  /-- No leaf is left out if they all resolve to different columns. -/
  all : m.fields.length = (o.leaves []).length ↔ (resolved.map MappedField.column).Nodup

theorem leavesOf_eq_resolved (h : m.parse mode o = ⟨m', none⟩) :
    m'.leavesOf o = m.resolved mode o := by
  obtain ⟨-, table, htable, leaves, hvisit, rfl⟩ := parse_eq_ok.mp h
  obtain ⟨hfits, rfl⟩ := (o.visit_iff_walked _ []).mp hvisit
  rw [table_eq (o.fits_walk "" hfits)] at htable
  obtain rfl := Except.ok.inj htable
  simpa [leavesOf, resolved, stops, scope] using congrArg Attempt.state hvisit

/-- A mapped object has the columns that its leaves resolve to, each once. -/
theorem columns_of_parse (h : m.parse mode o = ⟨m', none⟩) :
    m'.columns = ((m.resolved mode o).map MappedField.column).eraseDups := by
  rw [columns, fields_of_parse h, leavesOf_eq_resolved h, map_column_collect]

/-- An object that is mapped keeps a field for each column that its leaves resolve to: the last leaf
of the column. -/
theorem parse_keeps_last (h : m.parse mode o = ⟨m', none⟩) : m'.Keeps o (m.resolved mode o) := by
  have hmaps : Maps (m.resolved mode o) (o.leaves []) := leavesOf_eq_resolved h ▸ maps_leavesOf h
  have hfields : m'.fields = collect (m.resolved mode o) :=
    leavesOf_eq_resolved h ▸ fields_of_parse h
  have hpaths : ((m.resolved mode o).map MappedField.path).Nodup :=
    hmaps.map_path ▸ o.nodup_paths []
  refine ⟨hmaps, ?_, ?_, ?_, ?_, ?_⟩
  · rw [columns, hfields, map_column_collect]
  · exact fun f hf => mem_of_mem_collect (hfields ▸ hf)
  · intro before f after hsplit
    rw [hfields, hsplit]
    exact mem_collect_append (hsplit ▸ hpaths.of_map)
  · refine List.Nodup.map_on (fun f hf g hg hpath => ?_) ?_
    · rw [hfields] at hf hg
      exact List.inj_on_of_nodup_map hpaths (mem_of_mem_collect hf) (mem_of_mem_collect hg) hpath
    · rw [hfields]
      exact (nodup_columns_collect _).of_map
  · rw [hfields, ← hmaps.length_eq, length_collect_eq_iff]

/-- An order with its customer, a joined table. -/
def customerOrder : Object :=
  { label := "Order", typeName := "Order", table := "orders", primaryKey := "id"
    members := [
      .field "id" "col:id" (.scalar (.text "A1")),
      .field "customer" "extend:customers" (.nested
        { label := "Customer", typeName := "Customer", table := "customers", primaryKey := "id"
          members := [
            .field "id" "col:id" (.scalar (.text "K7")),
            .field "name" "col:name" (.scalar (.text "Ann"))] })] }

/-- A mapping in a statement that joins the customers without an alias. -/
def unaliased : Mapping :=
  { naming := .snake, aliases := some [("customers", "")] }

theorem parse_unaliased :
    unaliased.parse .update customerOrder = ⟨(unaliased.parse .update customerOrder).state, none⟩ :=
  Attempt.eq_of_failure (by decide +kernel)

theorem parse_keeps_last_customerOrder :
    ∃ m', unaliased.parse .update customerOrder = ⟨m', none⟩ ∧
      m'.fields.map (fun f => (f.column, f.path)) = [("id", [1, 0]), ("name", [1, 1])] ∧
      m'.Keeps customerOrder (unaliased.resolved .update customerOrder) :=
  ⟨_, parse_unaliased, by decide +kernel, parse_keeps_last parse_unaliased⟩

theorem not_field_for_each_leaf :
    ¬ ∀ (m m' : Mapping) (mode : Mode) (o : Object), m.parse mode o = ⟨m', none⟩ →
      m'.fields.length = (o.leaves []).length ∧ (m'.fields.map MappedField.path).Nodup := by
  intro h
  exact absurd (h unaliased _ .update customerOrder parse_unaliased).1 (by decide +kernel)

end SqlMapping.Mapping
