import SqlMapping.Proofs.Mapping.Scan
import SqlMapping.Proofs.Object.Matching

/-! # Inserted values read back

The values that are inserted for an object, scanned into another one of its type and assigned there,
make its leaves those of the first. -/

namespace SqlMapping

/-! ## A leaf -/

/-- The content of a member, if it is present and stored in one column. -/
def Field.content? : Field → Option Scalar
  | scalar s => some s
  | optional _ _ _ (some f) => f.content?
  | _ => none

/-- A member as its content comes back. -/
def Field.restored : Field → Field
  | scalar s => scalar s.restored
  | optional k n fresh (some f) => optional k n fresh (some f.restored)
  | f => f

variable {c : Transport} {l k : Leaf} {column : String}

theorem Transport.carry_null : c.carry .null = .null := by
  cases c <;> rfl

theorem Leaf.insertValue_scalar {s : Scalar} (h : l.field = .scalar s) :
    (l.mapped column).insertValue = s.toValue ∨
      (l.mapped column).insertValue = .null ∧ s.isZero ∧ (s.kind = .time ∨ s.kind = .codec) := by
  rw [insertValue_mapped, h]
  split
  case isTrue hunset => exact .inr ⟨rfl, hunset.2.1, hunset.1⟩
  case isFalse => exact .inl rfl

/-- A present optional member is written, whatever its content. -/
theorem Leaf.insertValue_present {kind : Kind} {n : String} {fresh : Option Field} {s : Scalar}
    (h : l.field = .optional kind n fresh (some (.scalar s))) :
    (l.mapped column).insertValue = s.toValue := by
  rw [insertValue_mapped, h]
  exact if_neg fun hunset => nomatch hunset.2.1

theorem Leaf.insertValue_absent {kind : Kind} {n : String} {fresh : Option Field}
    (h : l.field = .optional kind n fresh none) : (l.mapped column).insertValue = .null := by
  rw [insertValue_mapped, h]
  exact ite_self _

/-- What is written for a leaf is assigned to one of its type as its content. -/
theorem Leaf.Takes.assign (h : l.Takes k)
    (hrestores : ∀ s, l.field.content? = some s → s.Restores c) :
    k.field.assign (c.carry (l.mapped column).insertValue) = ⟨l.field.restored, none⟩ := by
  have htakes := h.field
  generalize hf : l.field = f at htakes hrestores
  generalize k.field = g at htakes
  cases htakes with
  | @scalar s u hsame =>
      have hs := hrestores s rfl
      have hassign : u.assign (c.carry (l.mapped column).insertValue) = .ok s.restored := by
        rcases l.insertValue_scalar hf with hvalue | ⟨hvalue, hzero, hkind⟩
        · rw [hvalue, Scalar.assign_carry hsame hs]
        · rw [hvalue, Transport.carry_null, Scalar.assign_null_of_isZero hsame hs hzero hkind]
      rw [Field.assign, hassign]
      rfl
  | @optional n s₀ a b h₀ ha hb hfilled =>
      obtain ⟨u, rfl⟩ := Option.isSome_iff_exists.mp (hfilled rfl)
      cases a with
      | none =>
          rw [l.insertValue_absent hf, Transport.carry_null]
          rfl
      | some s =>
          have hsame : s.SameType u := (ha s rfl).trans (hb u rfl)
          have hnull : (c.carry s.toValue).isNull = false :=
            (Scalar.isNull_carry _).trans s.isNull_toValue
          rw [l.insertValue_present hf]
          simp only [Option.map_some, Field.assign, hnull,
            Scalar.assign_carry hsame (hrestores s rfl)]
          rfl

/-! ## All leaves -/

namespace Mapping

/-- A scanned field whose value makes its member that of a leaf. -/
structure Brings (q : Object) (f : MappedField) (l : Leaf) : Prop where
  scanned : f.scanned
  path : f.path = l.path
  path_ne_nil : f.path ≠ []
  assign : ∃ g, q.at? f.path = some g ∧ g.assign f.buffer = ⟨l.field.restored, none⟩

variable {m m' : Mapping} {o q t : Object} {c : Transport}

theorem forall₂_brings {ls ks : List Leaf} {written selected : List MappedField}
    (htakes : List.Forall₂ Leaf.Takes ls ks) (hwritten : Maps written ls)
    (hselected : Maps selected ks)
    (hrestores : ∀ l ∈ ls, ∀ s, l.field.content? = some s → s.Restores c)
    (hks : ∀ k ∈ ks, k.path ≠ [] ∧ q.at? k.path = some k.field) :
    List.Forall₂ (Brings q)
      (List.zipWith (fun f v => { f with scanned := true, buffer := v }) selected
        (written.map fun f => c.carry f.insertValue)) ls := by
  induction htakes generalizing written selected with
  | nil =>
      cases hselected
      exact .nil
  | @cons l k ls ks h hs ih =>
      obtain - | ⟨hf, hfs⟩ := hwritten
      obtain - | ⟨hg, hgs⟩ := hselected
      refine .cons ⟨rfl, ?_, ?_, k.field, ?_, ?_⟩ (ih hfs hgs
        (fun l hl => hrestores l (List.mem_cons_of_mem _ hl))
        fun k hk => hks k (List.mem_cons_of_mem _ hk))
      · rw [hg]
        exact h.path.symm
      · rw [hg]
        exact (hks k List.mem_cons_self).1
      · rw [hg]
        exact (hks k List.mem_cons_self).2
      · rw [hf]
        exact h.assign (hrestores l List.mem_cons_self)

theorem Brings.after {f g : MappedField} {l : Leaf} (h : Brings q f l) (hg : Apart g.path f.path) :
    Brings (assignField q g).state f l := by
  obtain ⟨member, hat, hassign⟩ := h.assign
  exact ⟨h.scanned, h.path, h.path_ne_nil, member, (at?_assignField hg).trans hat, hassign⟩

/-- Fields that stand apart make their members those of their leaves. -/
theorem assignAll_of_brings {fs : List MappedField} {ls : List Leaf}
    (h : List.Forall₂ (Brings q) fs ls) (hapart : ApartFields fs) :
    ∃ loaded, assignAll q fs = ⟨loaded, none⟩ ∧
      ∀ l ∈ ls, loaded.at? l.path = some l.field.restored := by
  induction fs generalizing q ls with
  | nil =>
      cases h
      exact ⟨q, rfl, fun l hl => absurd hl List.not_mem_nil⟩
  | cons f fs ih =>
      obtain - | ⟨hfirst, hrest⟩ := h
      obtain ⟨hf, hfs⟩ := List.pairwise_cons.mp hapart
      obtain ⟨g, hg, hassign⟩ := hfirst.assign
      obtain ⟨hmember, hfailure⟩ := assignField_of_at? hg hfirst.path_ne_nil
      rw [hassign] at hmember hfailure
      -- The fields behind the first stand apart from it, so they still bring what they did.
      have hafter := ((List.forall₂_and_left _ _).mpr ⟨hf, hrest⟩).imp fun _ _ h => h.2.after h.1
      obtain ⟨loaded, hloaded, hleaves⟩ := ih hafter hfs
      refine ⟨loaded, ?_, fun l hl => ?_⟩
      · have hassigned : assignField q f = ⟨(assignField q f).state, none⟩ :=
          congrArg (Attempt.mk _) hfailure
        rw [assignAll, hassigned]
        exact hloaded
      · rcases List.mem_cons.mp hl with rfl | hl
        · have hkept := at?_assignAll (o := (assignField q f).state) fun g hg => (hf g hg).symm
          rwa [hloaded, hmember, hfirst.path] at hkept
        · exact hleaves l hl

theorem apart_of_brings {fs : List MappedField}
    (h : List.Forall₂ (Brings q) fs (o.leaves [])) : ApartFields fs := by
  have hleaves : (o.leaves []).Pairwise fun l k => Apart l.path k.path :=
    (List.pairwise_map.mp (o.nodup_paths [])).imp_of_mem Leaf.apart_of_ne
  have hpaths := map_path_of_forall₂ h fun _ _ h => h.path
  exact List.pairwise_map.mp (hpaths ▸ List.pairwise_map.mpr hleaves)

theorem filter_scanned_of_brings {fs : List MappedField} {ls : List Leaf}
    (h : List.Forall₂ (Brings q) fs ls) : fs.filter MappedField.scanned = fs :=
  List.filter_eq_self.mpr ((List.forall₂_and_left fs ls).mp
    (h.imp (S := fun f _ => f.scanned ∧ True) fun _ _ h => ⟨h.scanned, trivial⟩)).1

/-- The leaves of an object have different columns. -/
def DistinctColumns (m : Mapping) (o : Object) : Prop :=
  ((m.leavesOf o).map MappedField.column).Nodup

theorem maps_fields {mode : Mode} (h : m.parse mode o = ⟨m', none⟩)
    (hdistinct : m'.DistinctColumns o) : Maps m'.fields (o.leaves []) := by
  rw [fields_of_parse h, collect_of_nodup hdistinct]
  exact maps_leavesOf h

/-- Inserting an object and scanning what was written into another one of its type succeeds, and
makes the leaves of that one those of the first. -/
theorem insert_restores (hmembers : o.members.isEmpty = false) (hmatch : o.Matches false t)
    (hrestores : ∀ l ∈ o.leaves [], ∀ s, l.field.content? = some s → s.Restores c)
    (hwritten : (m.parse .insert o).state.DistinctColumns o)
    (hselected : (m'.parseSelect t).state.1.DistinctColumns (m'.parseSelect t).state.2) :
    ∃ written selected filled loaded,
      m.parse .insert o = ⟨written, none⟩ ∧ m'.parseSelect t = ⟨(selected, filled), none⟩ ∧
      (selected.scan selected.allPlaces
        (written.insertValues.map fun (_, v) => c.carry v)).assign filled = ⟨loaded, none⟩ ∧
      ∀ l ∈ o.leaves [], loaded.at? l.path = some l.field.restored := by
  obtain ⟨filled, hfill, hmatch⟩ := hmatch.allocate
  have hvisits := fun s qualifier => Object.Matches.visit o hmatch s qualifier []
  obtain ⟨written, hwrite⟩ : ∃ written, m.parse .insert o = ⟨written, none⟩ :=
    exists_parse hmembers fun qualifier => (hvisits _ qualifier).1 (by simp [scope])
  obtain ⟨selected, hselect⟩ : ∃ selected, m'.parse .select filled = ⟨selected, none⟩ :=
    exists_parse (hmatch.isEmpty_members.trans hmembers) fun qualifier => (hvisits _ qualifier).2
  have hparse := parseSelect_eq_ok.mpr ⟨hfill, hselect⟩
  rw [hwrite] at hwritten
  rw [hparse] at hselected
  have hwritten := maps_fields hwrite hwritten
  have hselected := maps_fields hselect hselected
  have htakes := hmatch.leaves o []
  have hrow : written.insertValues.map (fun (_, v) => c.carry v) =
      written.fields.map fun f => c.carry f.insertValue := by
    rw [insertValues, List.map_map]
    rfl
  have hlength : (written.fields.map fun f => c.carry f.insertValue).length =
      selected.fields.length := by
    rw [List.length_map, hwritten.length_eq, htakes.length_eq, hselected.length_eq]
  have hbrings := forall₂_brings htakes hwritten hselected hrestores fun k hk =>
    ⟨Leaf.path_ne_nil hk, Leaf.at?_path hk⟩
  obtain ⟨loaded, hloaded, hleaves⟩ := assignAll_of_brings hbrings (apart_of_brings hbrings)
  refine ⟨written, selected, filled, loaded, hwrite, hparse, ?_, hleaves⟩
  rw [assign_eq, hrow, fields_scan_allPlaces_of_length hlength, filter_scanned_of_brings hbrings,
    hloaded]

/-- A person with a name. -/
def person (name : String) : Object :=
  { label := "Person", typeName := "Person", table := "", primaryKey := "id"
    members := [.field "name" "col:name" (.scalar (.text name))] }

/-- A parcel of some pieces, with a note and a sender if there are any. -/
def parcel (pieces : Bounded .i32) (weight : Binary .double) (sent : DateTime)
    (labels : List String) (note : Option String) (sender : Option Object) : Object :=
  { label := "Parcel", typeName := "Parcel", table := "parcels", primaryKey := "id"
    members :=
      [.field "pieces" "col:pieces" (.scalar (.integer (.fixed .i32) pieces)),
        .field "weight" "col:weight" (.scalar (.float .double weight)),
        .field "sent" "col:sent" (.scalar (.time sent)),
        .field "labels" "col:labels" (.scalar (.coded .commaSeparated labels)),
        .field "note" "col:note" (.optional .text "String" (some (.scalar (.text "")))
          ((note.map .text).map .scalar)),
        .field "cached" "-" (.scalar (.boolean true)),
        .field "sender" "extend:people" (.optional .nested "Person" (some (.nested (person "")))
          (sender.map .nested))] }

/-- A parcel sent half a second after noon. -/
def sentParcel : Object :=
  parcel ⟨3, by decide, by decide⟩ (.ofRatio .double false 1 8)
    { year := 2024, month := 2, day := 29, hour := 12, minute := 0, second := 0
      nanosecond := 500000000 }
    ["a", "b"] none (some (person "ann"))

def blankParcel : Object :=
  parcel (.zero _) (.zero _) .zero [] none none

theorem sentParcel_matches : sentParcel.Matches false blankParcel := by
  have hperson : (person "ann").Matches false (person "") :=
    .mk (.cons (.field (t := { column := some "name" }) rfl rfl (.leaf (.scalar (.text ..)))) .nil)
  refine .mk ?_
  refine .cons (.field (t := { column := some "pieces" }) rfl rfl
    (.leaf (.scalar (.integer ..)))) ?_
  refine .cons (.field (t := { column := some "weight" }) rfl rfl (.leaf (.scalar (.float ..)))) ?_
  refine .cons (.field (t := { column := some "sent" }) rfl rfl (.leaf (.scalar (.time ..)))) ?_
  refine .cons (.field (t := { column := some "labels" }) rfl rfl (.leaf (.scalar (.coded ..)))) ?_
  refine .cons (.field (t := { column := some "note" }) rfl rfl (.leaf
    (.optional (a := none) (b := none) (.text "" "") (by simp) (by simp) (by simp)))) ?_
  refine .cons (.ignored (t := { ignore := true }) rfl rfl rfl) ?_
  exact .cons (.field (t := { extend := true, extendTable := some "people" }) rfl rfl
    (.absent hperson rfl)) .nil

theorem keeps_labels : Codec.commaSeparated.Keeps ["a", "b"] := by
  have hwrite : Text.Utf8.decodeLenient (Codec.commaSeparated.write ["a", "b"]) = "a,b" := by
    decide +kernel
  -- the split goes on by well-founded recursion: one step for each character and one for the end
  have hsplit : "a,b".splitOn "," = ["a", "b"] := by
    rw [String.splitOn, if_neg (by decide)]
    rw [String.splitOnAux, if_neg (by decide +kernel), if_neg (by decide +kernel)]
    rw [String.splitOnAux, if_neg (by decide +kernel), if_pos (by decide +kernel),
      if_pos (by decide +kernel)]
    rw [String.splitOnAux, if_neg (by decide +kernel), if_neg (by decide +kernel)]
    rw [String.splitOnAux, if_pos (by decide +kernel)]
    decide +kernel
  intro before
  rw [Codec.commaSeparated] at hwrite ⊢
  simp only [hwrite, hsplit]
  decide +kernel

theorem sentParcel_restores :
    ∀ l ∈ sentParcel.leaves [], ∀ s, l.field.content? = some s → s.Restores .text := by
  intro l hl s hs
  have hcontents : (sentParcel.leaves []).filterMap (fun l => l.field.content?) =
      [.integer (.fixed .i32) ⟨3, by decide, by decide⟩,
        .float .double (.ofRatio .double false 1 8),
        .time { year := 2024, month := 2, day := 29, hour := 12, minute := 0, second := 0
                nanosecond := 500000000 },
        .coded .commaSeparated ["a", "b"], .text "ann"] := rfl
  have hmem : s ∈ (sentParcel.leaves []).filterMap (fun l => l.field.content?) :=
    List.mem_filterMap.mpr ⟨l, hl, hs⟩
  rw [hcontents] at hmem
  simp only [List.mem_cons, List.not_mem_nil, or_false] at hmem
  rcases hmem with rfl | rfl | rfl | rfl | rfl
  · trivial
  · intro _ _
    decide +kernel
  · trivial
  · exact keeps_labels
  · trivial

theorem insert_restores_parcel :
    ∃ written selected filled loaded,
      parse { naming := .snake } .insert sentParcel = ⟨written, none⟩ ∧
      parseSelect { naming := .snake } blankParcel = ⟨(selected, filled), none⟩ ∧
      (selected.scan selected.allPlaces
        (written.insertValues.map fun (_, v) => Transport.text.carry v)).assign filled =
          ⟨loaded, none⟩ ∧
      ∀ l ∈ sentParcel.leaves [], loaded.at? l.path = some l.field.restored :=
  insert_restores rfl sentParcel_matches sentParcel_restores
    (by unfold DistinctColumns; decide +kernel) (by unfold DistinctColumns; decide +kernel)

end Mapping

end SqlMapping
