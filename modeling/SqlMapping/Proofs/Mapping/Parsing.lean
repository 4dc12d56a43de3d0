import SqlMapping.Proofs.Mapping.Columns
import SqlMapping.Proofs.Mapping.Visit
import SqlMapping.Proofs.Mapping.Walk

/-! # Mapped objects

An object is mapped if each member of its walk can be mapped. It then has a field for each column of
the leaves among them. -/

namespace SqlMapping

variable {s : Scope} {qualifier : String} {path : List Nat} {fields : List MappedField}

/-! ## Visits -/

theorem Member.walk_of_ignored {m : Member} {t : Tag} (htag : Tag.parse m.tag = .ok t)
    (hignore : t.ignore) : m.walk s qualifier path = [⟨path, qualifier, m⟩] := by
  cases m with
  | unsupported name tag k => rfl
  | field name tag f =>
      have htag : Tag.parse tag = .ok t := htag
      simp [walk, htag, hignore]

theorem Member.walk_field {name tag : String} {f : Field} {t : Tag} (htag : Tag.parse tag = .ok t)
    (hmapped : t.ignore = false) :
    (Member.field name tag f).walk s qualifier path = ⟨path, qualifier, .field name tag f⟩ ::
      f.walk s (if t.extend then (s.extension name t f.object?).aliasName else qualifier) path := by
  simp [walk, htag, hmapped]

theorem Field.walk_of_kind (f : Field) (h : f.kind ≠ .nested) : f.walk s qualifier path = [] := by
  match f with
  | .scalar _ => rfl
  | .nested _ => exact absurd rfl h
  | .optional _ _ _ none => rfl
  | .optional _ _ _ (some f) => exact f.walk_of_kind h

theorem Stop.leaf?_of_ignored {m : Member} {t : Tag} (htag : Tag.parse m.tag = .ok t)
    (hignore : t.ignore) : leaf? s ⟨path, qualifier, m⟩ = none := by
  cases m with
  | unsupported name tag k => rfl
  | field name tag f =>
      have htag : Tag.parse tag = .ok t := htag
      simp [leaf?, htag, hignore]

theorem Stop.leaf?_field {name tag : String} {f : Field} {t : Tag} (htag : Tag.parse tag = .ok t)
    (hmapped : t.ignore = false) :
    leaf? s ⟨path, qualifier, .field name tag f⟩ =
      if f.kind = .nested then none else some (s.leaf qualifier name t path f) := by
  simp only [leaf?, htag, hmapped, Bool.false_or, decide_eq_true_eq]
  rfl

/-- All stops of a walk can be mapped, and these are its leaves. -/
def Walked (s : Scope) (stops : List Stop) (fields : List MappedField) : Prop :=
  (∀ p ∈ stops, p.member.Fits s.mode) ∧ stops.filterMap (Stop.leaf? s) = fields

theorem walked_nil : Walked s [] fields ↔ fields = [] := by
  simp [Walked, eq_comm]

theorem walked_append {xs ys : List Stop} :
    Walked s (xs ++ ys) fields ↔
      ∃ first rest, Walked s xs first ∧ Walked s ys rest ∧ first ++ rest = fields := by
  constructor
  · rintro ⟨hfits, hfields⟩
    refine ⟨_, _, ⟨fun p hp => hfits p (List.mem_append_left ys hp), rfl⟩,
      ⟨fun p hp => hfits p (List.mem_append_right xs hp), rfl⟩, ?_⟩
    rw [← hfields, List.filterMap_append]
  · rintro ⟨_, _, ⟨hxs, rfl⟩, ⟨hys, rfl⟩, rfl⟩
    refine ⟨fun p hp => ?_, List.filterMap_append⟩
    rcases List.mem_append.mp hp with hp | hp
    · exact hxs p hp
    · exact hys p hp

theorem walked_cons {p : Stop} {stops : List Stop} :
    Walked s (p :: stops) fields ↔
      p.member.Fits s.mode ∧ ∃ rest, Walked s stops rest ∧ (p.leaf? s).toList ++ rest = fields := by
  cases hleaf : p.leaf? s <;> simp [Walked, hleaf, and_assoc]

theorem walked_singleton {p : Stop} :
    Walked s [p] fields ↔ p.member.Fits s.mode ∧ (p.leaf? s).toList = fields := by
  simp [walked_cons, walked_nil]

theorem Member.mem_walk (m : Member) : ⟨path, qualifier, m⟩ ∈ m.walk s qualifier path := by
  cases m <;> exact List.mem_cons_self

theorem Field.isNull_of_object? (f : Field) (h : f.object?.isSome) : f.isNull = false := by
  match f with
  | .scalar _ => rfl
  | .nested _ => rfl
  | .optional _ _ _ none => cases h
  | .optional _ _ _ (some _) => rfl

/-- A member is visited as its walk goes if the object it holds is. -/
theorem Member.visit_iff_walked_of {m : Member}
    (hnest : ∀ name tag f, m = .field name tag f → f.kind = .nested → ∀ qualifier,
      f.visit s qualifier path name = ⟨fields, none⟩ ↔
        (s.mode = .select → f.object?.isSome) ∧ Walked s (f.walk s qualifier path) fields) :
    m.visit s qualifier path = ⟨fields, none⟩ ↔ Walked s (m.walk s qualifier path) fields := by
  constructor
  · intro h
    cases Member.visit_eq_ok.mp h with
    | ignored htag hignore =>
        rw [Member.walk_of_ignored htag hignore, walked_singleton,
          Stop.leaf?_of_ignored htag hignore]
        exact ⟨.ignored htag hignore, rfl⟩
    | @nested name tag f t _ htag hmapped hnested h =>
        obtain ⟨hpresent, hwalked⟩ := (hnest name tag f rfl hnested _).mp h
        rw [Member.walk_field htag hmapped, walked_cons, Stop.leaf?_field htag hmapped,
          if_pos hnested]
        refine ⟨.mapped htag hmapped fun hselect => ?_, _, hwalked, rfl⟩
        exact ⟨f.isNull_of_object? (hpresent hselect), fun _ => hpresent hselect⟩
    | @leaf name tag f t htag hmapped hleaf hpresent =>
        rw [Member.walk_field htag hmapped, f.walk_of_kind hleaf, walked_singleton,
          Stop.leaf?_field htag hmapped, if_neg hleaf]
        refine ⟨.mapped htag hmapped fun hselect => ?_, rfl⟩
        exact ⟨hpresent hselect, fun hnested => absurd hnested hleaf⟩
  · intro h
    refine Member.visit_eq_ok.mpr ?_
    cases h.1 ⟨path, qualifier, m⟩ m.mem_walk with
    | ignored htag hignore =>
        rw [Member.walk_of_ignored htag hignore, walked_singleton,
          Stop.leaf?_of_ignored htag hignore] at h
        obtain rfl := h.2
        exact .ignored htag hignore
    | @mapped name tag f t htag hmapped hpresent =>
        rw [Member.walk_field htag hmapped, walked_cons, Stop.leaf?_field htag hmapped] at h
        obtain ⟨-, rest, hwalked, hfields⟩ := h
        by_cases hnested : f.kind = .nested
        · obtain rfl : rest = fields := by simpa [hnested] using hfields
          exact .nested htag hmapped hnested ((hnest name tag f rfl hnested _).mpr
            ⟨fun hselect => (hpresent hselect).2 hnested, hwalked⟩)
        · rw [f.walk_of_kind hnested, walked_nil] at hwalked
          obtain rfl : [s.leaf qualifier name t path f] = fields := by
            simpa [hnested, hwalked] using hfields
          exact .leaf htag hmapped hnested fun hselect => (hpresent hselect).1

mutual
/-- A visit succeeds if all stops of the walk can be mapped, and maps the leaves among them. -/
theorem Object.visit_iff_walked (o : Object) (qualifier : String) (path : List Nat)
    {fields : List MappedField} :
    o.visit s qualifier path = ⟨fields, none⟩ ↔ Walked s (o.walk s qualifier path) fields := by
  obtain ⟨_, _, _, _, members⟩ := o
  exact visitAll_iff_walked members qualifier path 0
termination_by structural o
theorem visitAll_iff_walked (ms : List Member) (qualifier : String) (path : List Nat) (place : Nat)
    {fields : List MappedField} :
    visitAll s qualifier path place ms = ⟨fields, none⟩ ↔
      Walked s (walkAll s qualifier path place ms) fields := by
  match ms with
  | [] => simp [visitAll, walkAll, walked_nil, eq_comm]
  | m :: ms =>
      rw [visitAll_cons_eq_ok, walkAll, walked_append]
      simp only [m.visit_iff_walked, visitAll_iff_walked ms]
termination_by structural ms
theorem Member.visit_iff_walked (m : Member) (qualifier : String) (path : List Nat)
    {fields : List MappedField} :
    m.visit s qualifier path = ⟨fields, none⟩ ↔ Walked s (m.walk s qualifier path) fields := by
  match m with
  | .unsupported .. => exact Member.visit_iff_walked_of nofun
  | .field name tag f =>
      refine Member.visit_iff_walked_of ?_
      rintro _ _ _ ⟨⟩ hnested qualifier
      exact f.visit_iff_walked qualifier path name hnested
termination_by structural m
theorem Field.visit_iff_walked (f : Field) (qualifier : String) (path : List Nat) (member : String)
    (hnested : f.kind = .nested) {fields : List MappedField} :
    f.visit s qualifier path member = ⟨fields, none⟩ ↔
      (s.mode = .select → f.object?.isSome) ∧ Walked s (f.walk s qualifier path) fields := by
  match f with
  | .nested o =>
      rw [Field.visit, Field.walk, o.visit_iff_walked]
      simp [Field.object?]
  | .optional _ _ _ (some f) => exact f.visit_iff_walked qualifier path member hnested
  | .optional _ _ _ none =>
      rw [Field.visit]
      split
      case isTrue hselect => simp [hselect, Field.object?]
      case isFalse hselect =>
          simp only [hselect, Field.walk, walked_nil, false_imp_iff, true_and, Attempt.mk.injEq,
            and_true]
          exact eq_comm
  | .scalar x => exact absurd hnested x.kind_ne_nested
termination_by structural f
end

/-! ## Extensions -/

theorem Stop.extension?_of_ignored {m : Member} {t : Tag} (htag : Tag.parse m.tag = .ok t)
    (hignore : t.ignore) : extension? s ⟨path, qualifier, m⟩ = none := by
  cases m with
  | unsupported name tag k => rfl
  | field name tag f =>
      have htag : Tag.parse tag = .ok t := htag
      simp [extension?, htag, hignore]

/-- The first extension of a member is the first its walk comes to if this holds of the object it
holds. -/
theorem Member.firstExtension_eq_of {m : Member} {t : Tag} (htag : Tag.parse m.tag = .ok t)
    (hnest : ∀ name tag f t, m = .field name tag f → Tag.parse tag = .ok t → t.ignore = false →
      f.firstExtension s = .ok ((f.walk s (if t.extend then
        (s.extension name t f.object?).aliasName else qualifier) path).findSome?
          (Stop.extension? s))) :
    m.firstExtension s = .ok ((m.walk s qualifier path).findSome? (Stop.extension? s)) := by
  cases m with
  | unsupported name tag k =>
      have htag : Tag.parse tag = .ok t := htag
      rw [firstExtension, htag]
      rfl
  | field name tag f =>
      have hparse : Tag.parse tag = .ok t := htag
      cases hignore : t.ignore with
      | true =>
          rw [walk_of_ignored htag hignore, List.findSome?_cons,
            Stop.extension?_of_ignored htag hignore]
          simp [firstExtension, hparse, hignore, bind, Except.bind, pure, Except.pure]
      | false =>
          rw [walk_field hparse hignore, List.findSome?_cons]
          have hnest := hnest name tag f t rfl hparse hignore
          by_cases hnested : f.kind = .nested
          · cases hextend : t.extend with
            | true =>
                simp [firstExtension, Stop.extension?, hparse, hignore, hnested, hextend, bind,
                  Except.bind, pure, Except.pure]
            | false =>
                rw [hextend] at hnest
                simp [firstExtension, Stop.extension?, hparse, hignore, hnested, hextend, hnest,
                  bind, Except.bind]
          · simp [firstExtension, Stop.extension?, hparse, hignore, hnested, f.walk_of_kind hnested,
              bind, Except.bind, pure, Except.pure]

/-- All members of a walk have valid tags. -/
abbrev Tagged (stops : List Stop) : Prop :=
  ∀ p ∈ stops, ∃ t, Tag.parse p.member.tag = .ok t

theorem Member.Fits.tagged {m : Member} {mode : Mode} (h : m.Fits mode) :
    ∃ t, Tag.parse m.tag = .ok t := by
  cases h with
  | ignored htag _ => exact ⟨_, htag⟩
  | mapped htag _ _ => exact ⟨_, htag⟩

mutual
/-- The first extension of an object is the first that its walk comes to. -/
theorem Object.firstExtension_eq (o : Object) (qualifier : String) (path : List Nat)
    (h : Tagged (o.walk s qualifier path)) :
    o.firstExtension s = .ok ((o.walk s qualifier path).findSome? (Stop.extension? s)) := by
  obtain ⟨_, _, _, _, members⟩ := o
  exact firstExtensionAmong_eq members qualifier path 0 h
termination_by structural o
theorem firstExtensionAmong_eq (ms : List Member) (qualifier : String) (path : List Nat)
    (place : Nat) (h : Tagged (walkAll s qualifier path place ms)) :
    firstExtensionAmong s ms =
      .ok ((walkAll s qualifier path place ms).findSome? (Stop.extension? s)) := by
  match ms with
  | [] => rfl
  | m :: ms =>
      rw [walkAll, Tagged, List.forall_mem_append] at h
      obtain ⟨hfirst, hrest⟩ := h
      rw [firstExtensionAmong, m.firstExtension_eq qualifier (path ++ [place]) hfirst,
        firstExtensionAmong_eq ms qualifier path (place + 1) hrest, walkAll, List.findSome?_append]
      simp only [bind, Except.bind, pure, Except.pure]
      cases (m.walk s qualifier (path ++ [place])).findSome? (Stop.extension? s) <;> rfl
termination_by structural ms
theorem Member.firstExtension_eq (m : Member) (qualifier : String) (path : List Nat)
    (h : Tagged (m.walk s qualifier path)) :
    m.firstExtension s = .ok ((m.walk s qualifier path).findSome? (Stop.extension? s)) := by
  match m with
  | .unsupported name tag k =>
      obtain ⟨t, htag⟩ := h _ (Member.mem_walk _)
      refine Member.firstExtension_eq_of htag ?_
      rintro _ _ _ _ ⟨⟩
  | .field name tag f =>
      obtain ⟨t, htag⟩ := h _ (Member.mem_walk _)
      refine Member.firstExtension_eq_of htag ?_
      rintro _ _ _ t ⟨⟩ htag hmapped
      rw [Member.walk_field htag hmapped] at h
      exact f.firstExtension_eq _ path fun p hp => h p (List.mem_cons_of_mem _ hp)
termination_by structural m
theorem Field.firstExtension_eq (f : Field) (qualifier : String) (path : List Nat)
    (h : Tagged (f.walk s qualifier path)) :
    f.firstExtension s = .ok ((f.walk s qualifier path).findSome? (Stop.extension? s)) := by
  match f with
  | .nested o => exact o.firstExtension_eq qualifier path h
  | .optional _ _ _ (some f) => exact f.firstExtension_eq qualifier path h
  | .optional _ _ _ none => rfl
  | .scalar _ => rfl
termination_by structural f
end

/-! ## Mappings -/

namespace Mapping

variable {m : Mapping} {mode : Mode} {o : Object}

/-- The table of an object: the given one, else the declared one, else the one named after its
type, else that of the first extension its walk comes to. -/
def tableOf (m : Mapping) (mode : Mode) (o : Object) : TableRef :=
  if m.tableGiven then m.table
  else if o.table ≠ "" then .parse o.table
  else if o.typeName ≠ "" then { name := m.naming.table o.typeName }
  else ((o.walk (m.scope mode) "" []).findSome? (Stop.extension? (m.scope mode))).getD {}

/-- The walk of an object that is mapped, from the alias of its table, or from none in an insert. -/
def stops (m : Mapping) (mode : Mode) (o : Object) : List Stop :=
  o.walk (m.scope mode) (if mode = .insert then "" else (m.tableOf mode o).aliasName) []

theorem table_eq_of_tagged (htagged : Tagged (o.walk (m.scope mode) "" [])) :
    (if m.tableGiven then .ok m.table else m.resolveTable mode o : Result TableRef) =
      .ok (m.tableOf mode o) := by
  rw [resolveTable, tableOf, o.firstExtension_eq "" [] htagged]
  cases m.tableGiven <;> by_cases htable : o.table = "" <;> by_cases hname : o.typeName = "" <;>
    simp [htable, hname, Except.map]

/-- The walk that finds the table of an object fits like one from any other alias. -/
theorem table_eq (hfits : ∀ p ∈ o.walk (m.scope mode) "" [], p.member.Fits mode) :
    (if m.tableGiven then .ok m.table else m.resolveTable mode o : Result TableRef) =
      .ok (m.tableOf mode o) :=
  table_eq_of_tagged fun p hp => (hfits p hp).tagged

/-- An object is mapped if it has members and all stops of its walk can be mapped. It then has a
field for each column of the leaves among them. -/
theorem parse_iff_walk (m : Mapping) (mode : Mode) (o : Object) :
    Ascending (m.stops mode o) ∧ ∀ m', m.parse mode o = ⟨m', none⟩ ↔
      o.members ≠ [] ∧ (∀ p ∈ m.stops mode o, p.member.Fits mode) ∧
        m' = { m with
          mode, table := m.tableOf mode o, primaryKey := o.primaryKey
          fields := byColumn ((m.stops mode o).filterMap (Stop.leaf? (m.scope mode))) } := by
  refine ⟨o.ascending_walk _ [], fun m' => ?_⟩
  rw [parse_eq_ok]
  constructor
  · rintro ⟨hmembers, table, htable, leaves, hvisit, rfl⟩
    obtain ⟨hfits, hleaves⟩ := (o.visit_iff_walked _ []).mp hvisit
    rw [table_eq (o.fits_walk "" hfits)] at htable
    obtain rfl := Except.ok.inj htable
    refine ⟨by simpa using hmembers, hfits, ?_⟩
    rw [collect_eq_byColumn, ← hleaves]
    rfl
  · rintro ⟨hmembers, hfits, rfl⟩
    refine ⟨by simpa using hmembers, _, table_eq (o.fits_walk "" hfits), _,
      (o.visit_iff_walked _ []).mpr ⟨hfits, rfl⟩, ?_⟩
    rw [collect_eq_byColumn]
    rfl

end Mapping

end SqlMapping
