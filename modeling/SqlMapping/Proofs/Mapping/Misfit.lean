import SqlMapping.Proofs.Mapping.Parsing
import SqlMapping.Proofs.Object.Growing

/-! # Members that cannot be mapped

The mapping of an object fails at the first member of its walk that does not fit. Filling an object
before it is selected makes its optional members present, but not an optional nested object within a
present one: this is what is left to fail at for want of a content. -/

namespace SqlMapping

/-- Why a member that a walk comes to cannot be mapped; none if it can. -/
def Member.misfit? (mode : Mode) (m : Member) : Option Failure :=
  match Tag.parse m.tag with
  | .error e => some e
  | .ok t =>
    if t.ignore then none
    else
      match m with
      | .unsupported name _ k => some (k.cause name)
      | .field name _ f =>
        if mode = .select ∧ (f.isNull ∨ f.kind = .nested ∧ f.object?.isNone) then
          some (Cause.nullFieldUnassignable name)
        else none

/-- A present optional member that holds, directly or in another one, an absent optional of a nested
type. -/
inductive Field.Hollow : Field → Prop
  | absent {k k' : Kind} {n n' : String} {fresh fresh' : Option Field} (h : k'.isScalar = false) :
      Hollow (.optional k n fresh (some (.optional k' n' fresh' none)))
  | within {k : Kind} {n : String} {fresh : Option Field} {f : Field} (h : f.Hollow) :
      Hollow (.optional k n fresh (some f))

/-- A member of a name that is not ignored and is hollow. -/
inductive Member.Hollow (name : String) : Member → Prop
  | mk {tag : String} {t : Tag} {f : Field} (htag : Tag.parse tag = .ok t)
      (hmapped : t.ignore = false) (h : f.Hollow) : Hollow name (.field name tag f)

variable {s : Scope} {m : Member} {t : Tag} {mode : Mode} {name tag : String}

/-! ## The first misfit of a walk -/

theorem Member.misfit?_of_ignored (htag : Tag.parse m.tag = .ok t) (hignore : t.ignore) :
    m.misfit? mode = none := by
  simp [misfit?, htag, hignore]

theorem Member.misfit?_of_error {e : Failure} (htag : Tag.parse m.tag = .error e) :
    m.misfit? mode = some e := by
  simp [misfit?, htag]

theorem Member.misfit?_unsupported {k : Unsupported} (htag : Tag.parse tag = .ok t)
    (hmapped : t.ignore = false) :
    (Member.unsupported name tag k).misfit? mode = some (k.cause name) := by
  have htag : Tag.parse (Member.unsupported name tag k).tag = .ok t := htag
  simp [misfit?, htag, hmapped]

theorem Member.misfit?_field {f : Field} (htag : Tag.parse tag = .ok t)
    (hmapped : t.ignore = false) :
    (Member.field name tag f).misfit? mode =
      if mode = .select ∧ (f.isNull ∨ f.kind = .nested ∧ f.object?.isNone) then
        some ↑(Cause.nullFieldUnassignable name)
      else none := by
  have htag : Tag.parse (Member.field name tag f).tag = .ok t := htag
  simp [misfit?, htag, hmapped]

theorem Member.misfit?_eq_none_iff : m.misfit? mode = none ↔ m.Fits mode := by
  constructor
  · intro h
    cases htag : Tag.parse m.tag with
    | error e => simp [misfit?_of_error htag] at h
    | ok t =>
        cases hignore : t.ignore with
        | true => exact .ignored htag hignore
        | false =>
            cases m with
            | unsupported name tag k =>
                have htag : Tag.parse tag = .ok t := htag
                simp [misfit?_unsupported htag hignore] at h
            | field name tag f =>
                have htag : Tag.parse tag = .ok t := htag
                rw [misfit?_field htag hignore, ite_eq_right_iff] at h
                refine .mapped htag hignore fun hmode => ⟨?_, fun hnested => ?_⟩
                · by_contra hnull
                  cases h ⟨hmode, .inl (by simpa using hnull)⟩
                · by_contra hobject
                  cases h ⟨hmode, .inr ⟨hnested, by simpa using hobject⟩⟩
  · rintro (⟨htag, hignore⟩ | ⟨htag, hmapped, hpresent⟩)
    · exact misfit?_of_ignored htag hignore
    · rw [misfit?_field htag hmapped, if_neg]
      rintro ⟨hmode, hnull | ⟨hnested, hobject⟩⟩
      · simp [(hpresent hmode).1] at hnull
      · have hsome := (hpresent hmode).2 hnested
        simp [Option.isNone_iff_eq_none.mp hobject] at hsome

theorem Field.failure_visit_of_object? (f : Field) {q : String} {path : List Nat}
    (hnested : f.kind = .nested) (hobject : f.object? = none) :
    (f.visit s q path name).failure =
      if s.mode = .select then some ↑(Cause.nullFieldUnassignable name) else none := by
  match f with
  | .scalar x => exact absurd hnested x.kind_ne_nested
  | .nested _ => cases hobject
  | .optional _ _ _ none =>
      rw [Field.visit]
      split <;> rfl
  | .optional _ _ _ (some f) => exact f.failure_visit_of_object? hnested hobject

theorem Field.walk_of_object? (f : Field) {q : String} {path : List Nat}
    (hobject : f.object? = none) : f.walk s q path = [] := by
  match f with
  | .scalar _ => rfl
  | .nested _ => cases hobject
  | .optional _ _ _ none => rfl
  | .optional _ _ _ (some f) => exact f.walk_of_object? hobject

/-- A member's visit fails at the first misfit of its walk if the visit of the object it holds
does. -/
theorem Member.failure_visit_of {m : Member} {q : String} {path : List Nat}
    (hnest : ∀ name tag f, m = .field name tag f → f.object?.isSome → ∀ q,
      (f.visit s q path name).failure = (f.walk s q path).findSome? (·.member.misfit? s.mode)) :
    (m.visit s q path).failure = (m.walk s q path).findSome? (·.member.misfit? s.mode) := by
  cases m with
  | unsupported name tag k =>
      cases htag : Tag.parse tag with
      | error e => simp [visit, walk, misfit?, Member.tag, htag]
      | ok t => cases hignore : t.ignore <;> simp [visit, walk, misfit?, Member.tag, htag, hignore]
  | field name tag f =>
      cases htag : Tag.parse tag with
      | error e => simp [visit, walk, misfit?, Member.tag, htag]
      | ok t =>
          cases hignore : t.ignore with
          | true => simp [visit, walk, misfit?, Member.tag, htag, hignore]
          | false =>
              rw [walk_field htag hignore, List.findSome?_cons, misfit?_field htag hignore]
              by_cases hnested : f.kind = .nested
              case neg =>
                  rw [f.walk_of_kind hnested]
                  cases hnull : f.isNull <;> by_cases hmode : s.mode = .select <;>
                    simp [visit, htag, hignore, hnested, hnull, hmode]
              case pos =>
                  by_cases hobject : f.object?.isSome
                  case pos =>
                      have hpresent := f.isNull_of_object? hobject
                      have hsome : f.object? ≠ none := Option.isSome_iff_ne_none.mp hobject
                      simp [visit, htag, hignore, hnested, hpresent, hsome,
                        hnest name tag f rfl hobject]
                  case neg =>
                      have hnone : f.object? = none := by simpa using hobject
                      rw [f.walk_of_object? hnone]
                      by_cases hmode : s.mode = .select <;>
                        simp [visit, htag, hignore, hnested, hnone, hmode,
                          f.failure_visit_of_object? hnested hnone]

mutual
/-- A visit fails at the first misfit of the walk. -/
theorem Object.failure_visit (o : Object) (q : String) (path : List Nat) :
    (o.visit s q path).failure = (o.walk s q path).findSome? (·.member.misfit? s.mode) := by
  obtain ⟨_, _, _, _, members⟩ := o
  exact failure_visitAll members q path 0
termination_by structural o
theorem failure_visitAll (ms : List Member) (q : String) (path : List Nat) (place : Nat) :
    (visitAll s q path place ms).failure =
      (walkAll s q path place ms).findSome? (·.member.misfit? s.mode) := by
  match ms with
  | [] => rfl
  | m :: ms =>
      rw [visitAll, walkAll, List.findSome?_append, ← m.failure_visit q (path ++ [place])]
      rcases m.visit s q (path ++ [place]) with ⟨leaves, _ | e⟩
      · exact failure_visitAll ms q path (place + 1)
      · rfl
termination_by structural ms
theorem Member.failure_visit (m : Member) (q : String) (path : List Nat) :
    (m.visit s q path).failure = (m.walk s q path).findSome? (·.member.misfit? s.mode) := by
  match m with
  | .unsupported .. =>
      refine Member.failure_visit_of ?_
      rintro _ _ _ ⟨⟩
  | .field name tag f =>
      refine Member.failure_visit_of ?_
      rintro _ _ _ ⟨⟩ hobject q
      exact f.failure_visit q path name hobject
termination_by structural m
theorem Field.failure_visit (f : Field) (q : String) (path : List Nat) (name : String)
    (hobject : f.object?.isSome) :
    (f.visit s q path name).failure = (f.walk s q path).findSome? (·.member.misfit? s.mode) := by
  match f with
  | .nested o => exact o.failure_visit q path
  | .optional _ _ _ (some f) => exact f.failure_visit q path name hobject
  | .optional _ _ _ none => cases hobject
  | .scalar _ => cases hobject
termination_by structural f
end

/-! ## Objects that have grown -/

theorem Field.hollow_iff (f : Field) :
    f.Hollow ↔ f.isNull = false ∧ f.kind = .nested ∧ f.object? = none := by
  match f with
  | .scalar s => exact ⟨nofun, fun h => absurd h.2.1 s.kind_ne_nested⟩
  | .nested _ => exact ⟨nofun, fun h => nomatch h.2.2⟩
  | .optional _ _ _ none => exact ⟨nofun, fun h => nomatch h.1⟩
  | .optional _ _ _ (some (.scalar s)) =>
      exact ⟨fun h => (nomatch h), fun h => absurd h.2.1 s.kind_ne_nested⟩
  | .optional _ _ _ (some (.nested _)) => exact ⟨fun h => (nomatch h), fun h => nomatch h.2.2⟩
  | .optional _ _ _ (some (.optional k n fresh none)) =>
      constructor
      · rintro (h | ⟨⟨⟩⟩)
        exact ⟨rfl, if_neg (by simp [h]), rfl⟩
      · rintro ⟨-, hnested, -⟩
        have hkind : (if k.isScalar then Kind.null else .nested) = .nested := hnested
        exact .absent (by simpa using hkind)
  | .optional _ _ _ (some (.optional k n fresh (some f))) =>
      have ih := hollow_iff (.optional k n fresh (some f))
      constructor
      · rintro (_ | h)
        exact ⟨rfl, (ih.mp h).2⟩
      · exact fun h => .within (ih.mpr ⟨rfl, h.2⟩)

mutual
/-- The members that a walk of a grown object comes to have all grown. -/
theorem Object.Grows.of_mem_walk : ∀ {o p : Object}, o.Grows p → ∀ (q : String) (path : List Nat)
    {stop : Stop}, stop ∈ p.walk s q path → stop.member.Grows stop.member
  | _, _, .mk h, q, path, _, hstop => h.of_mem_walk q path 0 hstop
theorem GrowAll.of_mem_walk : ∀ {ms ns : List Member}, GrowAll ms ns → ∀ (q : String)
    (path : List Nat) (place : Nat) {stop : Stop}, stop ∈ walkAll s q path place ns →
    stop.member.Grows stop.member
  | _, _, .nil, _, _, _, _, hstop => nomatch hstop
  | _, _, .cons h hs, q, path, place, _, hstop =>
      (List.mem_append.mp hstop).elim (h.of_mem_walk q _) (hs.of_mem_walk q path (place + 1))
theorem Member.Grows.of_mem_walk : ∀ {m n : Member}, m.Grows n → ∀ (q : String) (path : List Nat)
    {stop : Stop}, stop ∈ n.walk s q path → stop.member.Grows stop.member
  | _, _, .ignored htag hignore, q, path, stop, hstop => by
      rw [Member.walk_of_ignored htag hignore, List.mem_singleton] at hstop
      subst hstop
      exact .ignored htag hignore
  | _, _, .unsupported htag, q, path, stop, hstop => by
      obtain rfl := List.mem_singleton.mp hstop
      exact .unsupported htag
  | _, _, .field htag hmapped h, q, path, stop, hstop => by
      rw [Member.walk_field htag hmapped, List.mem_cons] at hstop
      rcases hstop with rfl | hstop
      · exact .field htag hmapped h.full
      · exact h.of_mem_walk _ path hstop
theorem Field.Grows.of_mem_walk : ∀ {f g : Field}, f.Grows g → ∀ (q : String) (path : List Nat)
    {stop : Stop}, stop ∈ g.walk s q path → stop.member.Grows stop.member
  | _, _, .scalar _, _, _, _, hstop => nomatch hstop
  | _, _, .absent h, q, path, _, hstop => h.of_mem_walk q path hstop
  | _, _, .present h, q, path, _, hstop => h.of_mem_walk q path hstop
  | _, _, .nested h, q, path, _, hstop => h.of_mem_walk q path hstop
theorem Field.GrowsWithin.of_mem_walk : ∀ {f g : Field}, f.GrowsWithin g → ∀ (q : String)
    (path : List Nat) {stop : Stop}, stop ∈ g.walk s q path → stop.member.Grows stop.member
  | _, _, .scalar _, _, _, _, hstop => nomatch hstop
  | _, _, .absent .., _, _, _, hstop => nomatch hstop
  | _, _, .present h, q, path, _, hstop => h.of_mem_walk q path hstop
  | _, _, .nested h, q, path, _, hstop => h.of_mem_walk q path hstop
end

theorem Member.Grows.tagged (h : m.Grows m) : ∃ t, Tag.parse m.tag = .ok t := by
  cases h with
  | ignored htag _ => exact ⟨_, htag⟩
  | unsupported htag => exact ⟨_, htag⟩
  | field htag _ _ => exact ⟨_, htag⟩

/-- A member that has grown is unassignable if it is hollow. -/
theorem Member.Grows.unassignable_iff (h : m.Grows m) :
    m.misfit? .select = some ↑(Cause.nullFieldUnassignable name) ↔ m.Hollow name := by
  cases h with
  | ignored htag hignore =>
      rw [misfit?_of_ignored htag hignore]
      refine ⟨fun h => (nomatch h), ?_⟩
      rintro @⟨tag, t', f, htag', hmapped, -⟩
      have htag : Tag.parse tag = .ok _ := htag
      obtain rfl := Except.ok.inj (htag.symm.trans htag')
      cases hignore.symm.trans hmapped
  | @unsupported n tag k t htag =>
      refine ⟨fun h => ?_, fun h => (nomatch h)⟩
      cases hignore : t.ignore with
      | true =>
          have htag : Tag.parse (Member.unsupported n tag k).tag = .ok t := htag
          simp [misfit?_of_ignored htag hignore] at h
      | false =>
          rw [misfit?_unsupported htag hignore] at h
          cases k <;> cases h
  | @field n _ t f _ htag hmapped h =>
      rw [misfit?_field htag hmapped]
      constructor
      · intro hmisfit
        split at hmisfit
        case isTrue hcond =>
            obtain rfl : n = name := by simpa using hmisfit
            obtain ⟨-, hnull | ⟨hnested, hobject⟩⟩ := hcond
            · cases h.isNull.symm.trans hnull
            · exact .mk htag hmapped (f.hollow_iff.mpr ⟨h.isNull, hnested, by simpa using hobject⟩)
        case isFalse => cases hmisfit
      · rintro ⟨-, -, hhollow⟩
        obtain ⟨-, hnested, hobject⟩ := f.hollow_iff.mp hhollow
        exact if_pos ⟨rfl, .inr ⟨hnested, by simp [hobject]⟩⟩

namespace Mapping

/-- The mapping of an object with valid tags fails at the first misfit of its walk. -/
theorem failure_parse {m : Mapping} {o : Object} (htagged : Tagged (o.walk (m.scope mode) "" [])) :
    (m.parse mode o).failure =
      if o.members.isEmpty then some ↑Cause.objectNoFields
      else (m.stops mode o).findSome? (·.member.misfit? mode) := by
  have htable : (if m.tableGiven then .ok m.table
      else resolveTable { m with mode, fields := [] } mode o : Result TableRef) =
        .ok (m.tableOf mode o) := table_eq_of_tagged htagged
  cases hmembers : o.members.isEmpty with
  | true => simp [parse, hmembers]
  | false =>
      simp only [parse, hmembers, htable, Bool.false_eq_true, if_false]
      exact o.failure_visit _ []

/-- Filling an object makes it grow, and has nothing to do a second time. When it has grown, a
select of it fails for want of a content just if the first member that does not fit is hollow. -/
theorem unassignable_iff_hollow {o p : Object} (h : o.allocate = ⟨p, none⟩) :
    o.Grows p ∧ p.allocate = ⟨p, none⟩ ∧
      ∀ (m : Mapping) (name : String),
        (m.parse .select p).failure = some ↑(Cause.nullFieldUnassignable name) ↔
          ∃ before stop after, m.stops .select p = before ++ stop :: after ∧
            (∀ q ∈ before, q.member.Fits .select) ∧ stop.member.Hollow name := by
  have hgrows := o.allocate_eq_ok.mp h
  refine ⟨hgrows, p.allocate_eq_ok.mpr hgrows.full, fun m name => ?_⟩
  have hstops : ∀ stop ∈ m.stops .select p, stop.member.Grows stop.member :=
    fun stop hstop => hgrows.of_mem_walk _ [] hstop
  rw [failure_parse fun stop hstop => (hgrows.of_mem_walk "" [] hstop).tagged]
  trans (m.stops .select p).findSome? (·.member.misfit? .select) =
      some ↑(Cause.nullFieldUnassignable name)
  · split
    case isTrue hmembers =>
        have hnil : m.stops .select p = [] := by
          obtain ⟨_, _, _, _, members⟩ := p
          obtain rfl : members = [] := by simpa using hmembers
          rfl
        simp [hnil]
    case isFalse => rfl
  · rw [List.findSome?_eq_some_iff]
    constructor
    · rintro ⟨before, stop, after, heq, hmisfit, hbefore⟩
      exact ⟨before, stop, after, heq, fun q hq => Member.misfit?_eq_none_iff.mp (hbefore q hq),
        (hstops stop (by simp [heq])).unassignable_iff.mp hmisfit⟩
    · rintro ⟨before, stop, after, heq, hbefore, hhollow⟩
      exact ⟨before, stop, after, heq, (hstops stop (by simp [heq])).unassignable_iff.mpr hhollow,
        fun q hq => Member.misfit?_eq_none_iff.mpr (hbefore q hq)⟩

/-- An order without a customer, which is an optional one of an optional type. -/
def order : Object :=
  { label := "Order", typeName := "Order", table := "orders", primaryKey := "id"
    members := [
      .field "id" "" (.scalar (.text "A1")),
      .field "customer" "" (.optional .nested "Option<Customer>"
        (some (.optional .nested "Customer"
          (some (.nested
            { label := "Customer", typeName := "Customer", table := "customers", primaryKey := "id"
              members := [.field "name" "" (.scalar (.text ""))] })) none)) none)] }

/-- Filled, it has a customer that is absent, and cannot be selected. -/
example :
    (parse { naming := .snake } .select order.allocate.state).failure =
      some ↑(Cause.nullFieldUnassignable "customer") :=
  rfl

end Mapping

end SqlMapping
