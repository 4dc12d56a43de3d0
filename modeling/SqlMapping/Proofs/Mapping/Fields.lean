import Mathlib.Data.List.Nodup
import Mathlib.Data.List.Pairwise
import SqlMapping.Proofs.Lists
import SqlMapping.Proofs.Mapping.Columns
import SqlMapping.Proofs.Mapping.Parsing
import SqlMapping.Proofs.Object.Leaf

/-! # Fields of a mapped object

The fields of a mapping lead to leaves of the object that was mapped, no two of them to one. -/

namespace SqlMapping

/-- Fields whose members stand apart. -/
def ApartFields (fs : List MappedField) : Prop :=
  fs.Pairwise fun f g => Apart f.path g.path

theorem Maps.exists_leaf {fields : List MappedField} {leaves : List Leaf} {f : MappedField}
    (h : Maps fields leaves) (hf : f ∈ fields) : ∃ l ∈ leaves, f = l.mapped f.column :=
  exists_right_of_mem h hf

/-- Fields and leaves that are related one by one have the same paths if those related have. -/
theorem map_path_of_forall₂ {R : MappedField → Leaf → Prop} {fields : List MappedField}
    {leaves : List Leaf} (h : List.Forall₂ R fields leaves)
    (hpath : ∀ f l, R f l → f.path = l.path) :
    fields.map MappedField.path = leaves.map Leaf.path := by
  rw [← List.forall₂_eq_eq_eq, List.forall₂_map_left_iff, List.forall₂_map_right_iff]
  exact h.imp hpath

theorem Maps.map_path {fields : List MappedField} {leaves : List Leaf} (h : Maps fields leaves) :
    fields.map MappedField.path = leaves.map Leaf.path :=
  map_path_of_forall₂ h fun _ _ h => h ▸ rfl

namespace Mapping

theorem mem_of_mem_collect {leaves : List MappedField} {f : MappedField}
    (h : f ∈ collect leaves) : f ∈ leaves := by
  have hfrom : ∀ fs, f ∈ leaves.foldl (fun fs f => putField f fs) fs → f ∈ fs ∨ f ∈ leaves := by
    clear h
    induction leaves with
    | nil => exact fun _ h => .inl h
    | cons g leaves ih =>
        intro fs h
        rcases ih _ h with h | h
        · rcases mem_of_mem_putField h with rfl | h
          · exact .inr List.mem_cons_self
          · exact .inl h
        · exact .inr (List.mem_cons_of_mem g h)
  exact (hfrom [] h).resolve_left List.not_mem_nil

/-- The fields of a mapping are leaves of an object. -/
structure Fits (m : Mapping) (o : Object) : Prop where
  nodup : m.columns.Nodup
  leaf : ∀ f ∈ m.fields, ∃ l ∈ o.leaves [], f = l.mapped f.column
  apart : ApartFields m.fields

theorem maps_leavesOf {m m' : Mapping} {mode : Mode} {o : Object}
    (h : m.parse mode o = ⟨m', none⟩) : Maps (m'.leavesOf o) (o.leaves []) := by
  obtain ⟨-, table, -, fields, hvisit, rfl⟩ := parse_eq_ok.mp h
  have hmaps := o.maps_of_visit [] _ hvisit
  show Maps (o.visit (m.scope mode) (if mode = .insert then "" else table.aliasName) []).state _
  rwa [hvisit]

/-- Each leaf of a mapped object is mapped from a member of the object. -/
theorem exists_leaf_of_mem_leavesOf {m m' : Mapping} {mode : Mode} {o : Object} {f : MappedField}
    (h : m.parse mode o = ⟨m', none⟩) (hf : f ∈ m'.leavesOf o) :
    ∃ (l : Leaf) (c : String), o.at? l.path = some l.field ∧ l.mapped c = f := by
  obtain ⟨l, hl, heq⟩ := (maps_leavesOf h).exists_leaf hf
  exact ⟨l, f.column, Leaf.at?_path hl, heq.symm⟩

theorem fits_of_parse {m m' : Mapping} {mode : Mode} {o : Object}
    (h : m.parse mode o = ⟨m', none⟩) : m'.Fits o := by
  have hmaps := maps_leavesOf h
  have hfields := fields_of_parse h
  have hnodup : m'.columns.Nodup := by
    rw [columns, hfields]
    exact nodup_columns_collect _
  have hmem : ∀ f ∈ m'.fields, f ∈ m'.leavesOf o := fun f hf => mem_of_mem_collect (hfields ▸ hf)
  refine ⟨hnodup, fun f hf => hmaps.exists_leaf (hmem f hf), ?_⟩
  refine (List.pairwise_map.mp hnodup).imp_of_mem fun {f g} hf hg hcolumn => ?_
  have hpath : f.path ≠ g.path := by
    intro heq
    have hpaths : ((m'.leavesOf o).map MappedField.path).Nodup := hmaps.map_path ▸ o.nodup_paths []
    exact hcolumn (List.inj_on_of_nodup_map hpaths (hmem f hf) (hmem g hg) heq ▸ rfl)
  obtain ⟨l, hl, hfl⟩ := hmaps.exists_leaf (hmem f hf)
  obtain ⟨k, hk, hgk⟩ := hmaps.exists_leaf (hmem g hg)
  rw [hfl, hgk] at hpath ⊢
  exact Leaf.apart_of_ne hl hk hpath

/-- An object with members is mapped if its leaves can be visited. -/
theorem exists_parse {m : Mapping} {mode : Mode} {o : Object} (hmembers : o.members.isEmpty = false)
    (hvisit : ∀ qualifier, ∃ fields, o.visit (m.scope mode) qualifier [] = ⟨fields, none⟩) :
    ∃ m', m.parse mode o = ⟨m', none⟩ := by
  have htable : ∃ table, (if m.tableGiven then .ok m.table else m.resolveTable mode o) =
      (.ok table : Result TableRef) := by
    obtain ⟨_, hfields⟩ := hvisit ""
    obtain ⟨hfits, -⟩ := (o.visit_iff_walked "" []).mp hfields
    rw [resolveTable, o.firstExtension_eq "" [] fun p hp => (hfits p hp).tagged]
    repeat' split
    all_goals exact ⟨_, rfl⟩
  obtain ⟨table, htable⟩ := htable
  obtain ⟨fields, hfields⟩ := hvisit (if mode = .insert then "" else table.aliasName)
  exact ⟨_, parse_eq_ok.mpr ⟨hmembers, table, htable, fields, hfields, rfl⟩⟩

theorem parseSelect_object (m : Mapping) (o : Object) :
    (m.parseSelect o).state.2 = o.allocate.state := by
  rw [parseSelect]
  split
  · rename_i heq
    rw [heq]
  · rename_i heq
    rw [heq]
    rfl

/-- An object is mapped for a select as it is after its absent members are filled. -/
theorem parseSelect_eq_ok {m m' : Mapping} {o o' : Object} :
    m.parseSelect o = ⟨(m', o'), none⟩ ↔
      o.allocate = ⟨o', none⟩ ∧ m.parse .select o' = ⟨m', none⟩ := by
  rw [parseSelect]
  split
  · rename_i heq
    simp [heq]
  · rename_i filled heq
    rw [Attempt.map_eq_ok, heq]
    constructor
    · rintro ⟨_, hparse, ⟨⟩⟩
      exact ⟨rfl, hparse⟩
    · rintro ⟨⟨⟩, hparse⟩
      exact ⟨m', hparse, rfl⟩

namespace Fits

variable {m : Mapping} {o : Object} {f : MappedField}

theorem path_ne_nil (h : m.Fits o) (hf : f ∈ m.fields) : f.path ≠ [] := by
  obtain ⟨l, hl, heq⟩ := h.leaf f hf
  exact heq ▸ Leaf.path_ne_nil hl

theorem at?_path (h : m.Fits o) (hf : f ∈ m.fields) :
    ∃ g, o.at? f.path = some g ∧ g.object? = none ∧ f.buffer = g.buffer := by
  obtain ⟨l, hl, heq⟩ := h.leaf f hf
  refine ⟨l.field, ?_, Leaf.object?_eq_none hl, ?_⟩
  · rw [heq]
    exact Leaf.at?_path hl
  · rw [heq]
    rfl

/-- No two fields lead to one member. -/
theorem eq_of_path (h : m.Fits o) {g : MappedField} (hf : f ∈ m.fields) (hg : g ∈ m.fields)
    (hpath : f.path = g.path) : f = g := by
  have hsymm : Std.Symm fun f g : MappedField => Apart f.path g.path := ⟨fun _ _ => Apart.symm⟩
  by_contra hne
  exact (h.apart.forall hf hg hne).1 (hpath ▸ List.prefix_rfl)

theorem scanned_eq_false (h : m.Fits o) (hf : f ∈ m.fields) : f.scanned = false := by
  obtain ⟨l, -, heq⟩ := h.leaf f hf
  rw [heq]
  rfl

end Fits

end Mapping

end SqlMapping
