import SqlMapping.Proofs.Mapping.Scan
import SqlMapping.Proofs.Object.Replacing

/-! # Rows read by columns

A row that is read by requested columns goes to the members that these columns lead to. The rest of
the object stays as it is. -/

namespace SqlMapping

/-- A field that leads to a member of an object. -/
def MappedField.LeadsInto (f : MappedField) (o : Object) : Prop :=
  f.path ≠ [] ∧ ∃ g, o.at? f.path = some g

namespace Mapping

variable {m : Mapping} {o loaded : Object} {g h : Field} {f : MappedField} {fs : List MappedField}
  {columns : List String} {row : List Value}

/-! ## Assigning -/

theorem assignField_eq_replacing (hf : f.LeadsInto o) (hg : o.at? f.path = some g) :
    assignField o f = ⟨o.replacing ((g.assign f.buffer).state.onlyAt f.path),
      (g.assign f.buffer).failure.map (Failure.within (.assigning f.column))⟩ := by
  rw [assignField, Object.assignAt?_eq_replacing hg hf.1]

/-- Fields are assigned if the first of them is taken by its member and the others are assigned
where it has been replaced. -/
theorem assignAll_cons_eq_ok (hf : f.LeadsInto o) :
    assignAll o (f :: fs) = ⟨loaded, none⟩ ↔
      ∃ g h, o.at? f.path = some g ∧ g.assign f.buffer = ⟨h, none⟩ ∧
        assignAll (o.replacing (h.onlyAt f.path)) fs = ⟨loaded, none⟩ := by
  obtain ⟨g, hg⟩ := hf.2
  rw [assignAll, assignField_eq_replacing hf hg]
  rcases hassign : g.assign f.buffer with ⟨h, _ | e⟩
  · simp [hg, hassign]
  · simp [hg, hassign]

theorem at?_replacing_onlyAt (hf : f.LeadsInto o) (hg : o.at? f.path = some g)
    (hassign : g.assign f.buffer = ⟨h, none⟩) {q : List Nat} (hq : Apart f.path q) :
    (o.replacing (h.onlyAt f.path)).at? q = o.at? q := by
  have hfirst := at?_assignField (o := o) hq
  rwa [assignField_eq_replacing hf hg, hassign] at hfirst

theorem leadsInto_replacing {k : MappedField} (hf : f.LeadsInto o)
    (hg : o.at? f.path = some g) (hassign : g.assign f.buffer = ⟨h, none⟩)
    (hk : k.LeadsInto o) (hapart : Apart f.path k.path) :
    k.LeadsInto (o.replacing (h.onlyAt f.path)) :=
  ⟨hk.1, by rw [at?_replacing_onlyAt hf hg hassign hapart]; exact hk.2⟩

/-- Fields that stand apart and are assigned: each member is replaced by itself after its own
assignment, and nothing else is. -/
theorem of_assignAll_eq_ok (hapart : ApartFields fs) (hfs : ∀ f ∈ fs, f.LeadsInto o)
    (hall : assignAll o fs = ⟨loaded, none⟩) :
    (∀ f ∈ fs, ∃ g h, o.at? f.path = some g ∧ g.assign f.buffer = ⟨h, none⟩ ∧
      loaded.at? f.path = some h) ∧
    loaded = o.replacing fun q =>
      if q ∈ fs.map MappedField.path then loaded.at? q else none := by
  induction fs generalizing o with
  | nil =>
      obtain rfl : o = loaded := congrArg Attempt.state hall
      refine ⟨fun f hf => absurd hf List.not_mem_nil, ?_⟩
      exact (o.replacing_eq_self fun _ _ => if_neg List.not_mem_nil).symm
  | cons f fs ih =>
      obtain ⟨hfirst, hrest⟩ := List.pairwise_cons.mp hapart
      have hf := hfs f List.mem_cons_self
      obtain ⟨g, h, hg, hassign, hall⟩ := (assignAll_cons_eq_ok hf).mp hall
      have hafter : ∀ k ∈ fs, k.LeadsInto (o.replacing (h.onlyAt f.path)) := fun k hk =>
        leadsInto_replacing hf hg hassign (hfs k (List.mem_cons_of_mem f hk)) (hfirst k hk)
      obtain ⟨hmembers, hloaded⟩ := ih hrest hafter hall
      have hkept : loaded.at? f.path = some h := by
        have hassigned := (assignField_of_at? hg hf.1).1
        rw [assignField_eq_replacing hf hg, hassign] at hassigned
        have hsame := at?_assignAll (o := o.replacing (h.onlyAt f.path)) fun k hk =>
          (hfirst k hk).symm
        rwa [hall, hassigned] at hsame
      refine ⟨fun k hk => ?_, ?_⟩
      · rcases List.mem_cons.mp hk with rfl | hk
        · exact ⟨g, h, hg, hassign, hkept⟩
        · obtain ⟨g', h', hg', hassign', hat⟩ := hmembers k hk
          rw [at?_replacing_onlyAt hf hg hassign (hfirst k hk)] at hg'
          exact ⟨g', h', hg', hassign', hat⟩
      · have hbeyond : Beyond (h.onlyAt f.path) fun q =>
            if q ∈ fs.map MappedField.path then loaded.at? q else none := by
          intro p q hp hq hprefix
          have hp : p = f.path := by
            by_contra hne
            simp [Field.onlyAt_of_ne hne] at hp
          have hq : q ∈ fs.map MappedField.path := by
            by_contra hnot
            simp [hnot] at hq
          obtain ⟨k, hk, rfl⟩ := List.mem_map.mp hq
          exact (hfirst k hk).1 (hp ▸ hprefix)
        rw [o.replacing_replacing hbeyond] at hloaded
        refine hloaded.trans (congrArg o.replacing (funext fun q => ?_))
        by_cases hq : q = f.path
        case pos => simp [hq, hkept]
        case neg => simp [Field.onlyAt_of_ne hq, hq]

/-! ## Requested columns -/

/-- The fields whose columns are requested. -/
def requested (m : Mapping) (columns : List String) : List MappedField :=
  m.fields.filter fun f => f.column ∈ names columns

/-- An object after a row that was read by columns, and as it was before. -/
structure Reads (m : Mapping) (columns : List String) (row : List Value) (before after : Object) :
    Prop where
  /-- A member whose column is requested holds what it makes of the value in the first place that
  requests it, or of an empty buffer if the row ends before it. -/
  requested : ∀ f ∈ m.fields, ∀ i, (names columns).idxOf? f.column = some i →
    ∃ g h, before.at? f.path = some g ∧ g.assign (row[i]?.getD g.buffer) = ⟨h, none⟩ ∧
      after.at? f.path = some h
  /-- All the rest of the object is as it was. -/
  rest : after = before.replacing fun q =>
    if q ∈ (m.requested columns).map MappedField.path then after.at? q else none

theorem filter_scanned_places (hfits : m.Fits o) (columns : List String) (row : List Value) :
    (m.scan (m.places columns) row).fields.filter MappedField.scanned =
      (m.requested columns).map fun f => f.scannedAt row ((names columns).idxOf? f.column) := by
  rw [fields_scan_places hfits.nodup, List.filter_map, requested]
  congr 1
  refine List.filter_congr fun f hf => ?_
  cases hplace : (names columns).idxOf? f.column with
  | none =>
      have hnot : f.column ∉ names columns := List.idxOf?_eq_none_iff.mp hplace
      simp [MappedField.scannedAt, hplace, hnot, hfits.scanned_eq_false hf]
  | some i =>
      have hmem : f.column ∈ names columns := by
        by_contra hnot
        simp [List.idxOf?_eq_none_iff.mpr hnot] at hplace
      simp [MappedField.scannedAt, hplace, hmem]

/-- Reading a row by columns changes the members that these lead to, each by its own assignment, and
nothing else. -/
theorem scan_reads_requested {m' : Mapping} {filled : Object}
    (hparse : m.parseSelect o = ⟨(m', filled), none⟩) (columns : List String) (row : List Value)
    (hassign : (m'.scan (m'.places columns) row).assign filled = ⟨loaded, none⟩) :
    m'.Reads columns row filled loaded := by
  have hfits : m'.Fits filled := fits_of_parse (parseSelect_eq_ok.mp hparse).2
  rw [assign_eq, filter_scanned_places hfits] at hassign
  generalize hfs : (m'.requested columns).map (fun f =>
    f.scannedAt row ((names columns).idxOf? f.column)) = fs at hassign
  have hpaths : fs.map MappedField.path = (m'.requested columns).map MappedField.path := by
    rw [← hfs, List.map_map]
    exact List.map_congr_left fun f _ => MappedField.path_scannedAt
  have hapart : ApartFields fs :=
    hfs ▸ ApartFields.map_scannedAt (hfits.apart.filter _) row _
  have hleads : ∀ f ∈ fs, f.LeadsInto filled := by
    intro f hf
    rw [← hfs] at hf
    obtain ⟨k, hk, rfl⟩ := List.mem_map.mp hf
    have hk : k ∈ m'.fields := List.mem_of_mem_filter hk
    obtain ⟨g, hg, -⟩ := hfits.at?_path hk
    exact ⟨by simpa using hfits.path_ne_nil hk, g, by simpa using hg⟩
  obtain ⟨hmembers, hloaded⟩ := of_assignAll_eq_ok hapart hleads hassign
  refine ⟨fun f hf i hi => ?_, by rwa [hpaths] at hloaded⟩
  have hrequested : f ∈ m'.requested columns := by
    refine List.mem_filter.mpr ⟨hf, decide_eq_true ?_⟩
    by_contra hnot
    simp [List.idxOf?_eq_none_iff.mpr hnot] at hi
  obtain ⟨g, h, hg, hassign, hat⟩ := hmembers _ (hfs ▸ List.mem_map_of_mem hrequested)
  rw [MappedField.path_scannedAt] at hg hat
  obtain ⟨g', hg', -, hbuffer⟩ := hfits.at?_path hf
  obtain rfl : g' = g := Option.some.inj (hg'.symm.trans hg)
  rw [hi] at hassign
  exact ⟨g', h, hg, hbuffer ▸ hassign, hat⟩

/-- An invoice whose payer is absent, with lines that are not mapped. -/
def invoice : Object :=
  { label := "Invoice", typeName := "Invoice", table := "invoices", primaryKey := "id"
    members := [
      .field "id" "col:id" (.scalar (.text "A1")),
      .field "payer" "extend:customers" (.optional .nested "Customer"
        (some (.nested
          { label := "Customer", typeName := "Customer", table := "customers", primaryKey := "id"
            members := [.field "name" "col:name" (.scalar (.text ""))] })) none),
      .field "note" "col:note" (.optional .text "String" (some (.scalar (.text "")))
        (some (.scalar (.text "paid")))),
      .field "total" "col:total" (.scalar (.text "9")),
      .unsupported "lines" "-" .slice] }

/-- Columns that name one field twice, one of no field and one that a row of three values does not
reach. -/
def invoiceColumns : List String :=
  ["customers.name as payer", "missing", "id", "id", "note"]

def invoiceRow : List Value :=
  [.text (some "Ann"), .null, .text (some "B2")]

def mappedInvoice : Attempt (Mapping × Object) :=
  parseSelect { naming := .snake } invoice

def readInvoice : Attempt Object :=
  (mappedInvoice.state.1.scan (mappedInvoice.state.1.places invoiceColumns) invoiceRow).assign
    mappedInvoice.state.2

theorem scan_reads_requested_invoice :
    ∃ m' filled loaded, parseSelect { naming := .snake } invoice = ⟨(m', filled), none⟩ ∧
      (m'.scan (m'.places invoiceColumns) invoiceRow).assign filled = ⟨loaded, none⟩ ∧
      (m'.requested invoiceColumns).map MappedField.path = [[0], [1, 0], [2]] ∧
      m'.Reads invoiceColumns invoiceRow filled loaded := by
  have hparse : mappedInvoice = ⟨mappedInvoice.state, none⟩ :=
    Attempt.eq_of_failure (by decide +kernel)
  have hread : readInvoice = ⟨readInvoice.state, none⟩ :=
    Attempt.eq_of_failure (by decide +kernel)
  have hpaths : (mappedInvoice.state.1.requested invoiceColumns).map MappedField.path =
      [[0], [1, 0], [2]] := by decide +kernel
  exact ⟨mappedInvoice.state.1, mappedInvoice.state.2, readInvoice.state, hparse, hread, hpaths,
    scan_reads_requested hparse invoiceColumns invoiceRow hread⟩

end Mapping

end SqlMapping
