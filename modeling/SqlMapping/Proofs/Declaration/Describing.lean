import SqlMapping.Declaration.Samples
import SqlMapping.Proofs.Attempt
import SqlMapping.Proofs.Declaration.Wrapping

/-! # What declarations say

A declaration can be read unless an attribute or the annotation of a public member is no such
thing, or nothing is known of the type of a public member, be it left out by its tag or not. It then
says one thing for each public member, in order: the name as it is written, with the mark of a raw
name, the tag and the shape of the type. The objects of the struct list the same, whatever is done
to them. -/

namespace SqlMapping

/-! ## Attributes -/

/-- An entry that an attribute of a struct may have. -/
inductive KnownEntry : String × Option Literal → Prop
  | table (s : String) : KnownEntry ("table", some (.text s))
  | primaryKey (s : String) : KnownEntry ("primary_key", some (.text s))
  | anonymous : KnownEntry ("anonymous", none)

namespace StructDescription

theorem readKey_isOk_iff (d : StructDescription) (key : String) (value : Option Literal) :
    (∃ d', d.readKey key value = .ok d') ↔ KnownEntry (key, value) := by
  constructor
  · rintro ⟨d', h⟩
    unfold readKey at h
    split at h
    · match value, h with
      | some (.text s), _ => exact .table s
    · match value, h with
      | some (.text s), _ => exact .primaryKey s
    · match value, h with
      | none, _ => exact .anonymous
    · cases h
  · rintro (_ | _ | _) <;> exact ⟨_, rfl⟩

theorem readKeys_isOk_iff (d : StructDescription) (entries : List (String × Option Literal)) :
    (∃ d', d.readKeys entries = .ok d') ↔ ∀ e ∈ entries, KnownEntry e := by
  induction entries generalizing d with
  | nil => simp [readKeys]
  | cons e rest ih =>
      obtain ⟨key, value⟩ := e
      rw [readKeys, List.forall_mem_cons, ← d.readKey_isOk_iff]
      cases hkey : d.readKey key value with
      | error reason => simp
      | ok d' => simp [ih]

end StructDescription

/-! ## Members -/

namespace MemberDeclaration

/-- The annotation of a member, empty when there is none; nothing when it is no text. -/
def annotation? (m : MemberDeclaration) : Option String :=
  match m.tags.head? with
  | none => some ""
  | some (.text s) => some s
  | some .number => none

def tag? (m : MemberDeclaration) : Option Tag :=
  m.annotation?.bind fun text => (Tag.parse text).toOption

/-- The tag is one and something is known of the type. -/
structure Readable (m : MemberDeclaration) : Prop where
  tag : m.tag? ≠ none
  type : ¬ m.type.HidesUnknown

/-- What a member says under its name as it is written. -/
def written (m : MemberDeclaration) : MemberDescription where
  name := m.name
  tag := m.annotation?.getD ""
  unsupported := m.type.marker?

variable {m : MemberDeclaration}

theorem tagText_eq_ok_iff {text : String} : m.tagText = .ok text ↔ m.annotation? = some text := by
  cases h : m.tags with
  | nil => simp [tagText, annotation?, h]
  | cons l _ => cases l <;> simp [tagText, annotation?, h]

theorem describe_eq_ok_iff {d : MemberDescription} :
    m.describe = .ok d ↔ m.Readable ∧ d = m.written := by
  have hreadable : m.Readable ↔ m.tag? ≠ none ∧ m.type.storage? ≠ none :=
    ⟨fun h => ⟨h.tag, fun hs => h.type (m.type.storage?_eq_none_iff.mp hs)⟩,
      fun h => ⟨h.1, fun hs => h.2 (m.type.storage?_eq_none_iff.mpr hs)⟩⟩
  cases htext : m.tagText with
  | error f =>
      have hnone : m.annotation? = none :=
        Option.eq_none_iff_forall_ne_some.mpr fun text h => by
          rw [← tagText_eq_ok_iff, htext] at h
          cases h
      simp [hreadable, describe, htext, tag?, hnone, bind, Except.bind]
  | ok text =>
      have hsome : m.annotation? = some text := tagText_eq_ok_iff.mp htext
      cases htag : Tag.parse text with
      | error f =>
          simp [hreadable, describe, htext, tag?, hsome, htag, bind, Except.bind, Except.toOption]
      | ok t =>
          cases hstorage : m.type.storage? with
          | none => simp [hreadable, describe, htext, htag, hstorage, bind, Except.bind]
          | some storage =>
              cases storage <;>
                simp [hreadable, describe, htext, tag?, hsome, htag, hstorage, bind, Except.bind,
                  Except.toOption, written, TypeExpr.marker?, eq_comm]

end MemberDeclaration

theorem describeMembers_cons_eq_ok {m : MemberDeclaration} {ms : List MemberDeclaration}
    {ds : List MemberDescription} (hpublic : m.isPublic = true) :
    describeMembers (m :: ms) = .ok ds ↔
      ∃ d rest, m.describe = .ok d ∧ describeMembers ms = .ok rest ∧ ds = d :: rest := by
  rw [describeMembers, if_pos hpublic]
  cases m.describe with
  | error f => simp [bind, Except.bind]
  | ok d => cases describeMembers ms <;> simp [bind, Except.bind, pure, Except.pure, eq_comm]

theorem describeMembers_eq_ok_iff {ms : List MemberDeclaration} {ds : List MemberDescription} :
    describeMembers ms = .ok ds ↔
      (∀ m ∈ ms, m.isPublic = true → m.Readable) ∧
        ds = (ms.filter (·.isPublic)).map (·.written) := by
  induction ms generalizing ds with
  | nil =>
      rw [describeMembers, Except.ok.injEq, eq_comm]
      simp
  | cons m ms ih =>
      by_cases hpublic : m.isPublic
      · simp only [describeMembers_cons_eq_ok hpublic, MemberDeclaration.describe_eq_ok_iff, ih,
          List.forall_mem_cons, List.filter_cons_of_pos hpublic, List.map_cons]
        constructor
        · rintro ⟨d, rest, ⟨hm, rfl⟩, ⟨hms, rfl⟩, rfl⟩
          exact ⟨⟨fun _ => hm, hms⟩, rfl⟩
        · rintro ⟨⟨hm, hms⟩, rfl⟩
          exact ⟨_, _, ⟨hm hpublic, rfl⟩, ⟨hms, rfl⟩, rfl⟩
      · simp [describeMembers, hpublic, ih]

/-! ## Raw names -/

/-- A name with the mark of a raw name. -/
def IsRaw (name : String) : Prop :=
  "r#".toList <+: name.toList

instance (name : String) : Decidable (IsRaw name) :=
  inferInstanceAs (Decidable ("r#".toList <+: name.toList))

/-- A name without the mark of a raw name. -/
def plainName (name : String) : String :=
  if IsRaw name then String.ofList (name.toList.drop 2) else name

theorem plainName_eq_iff (name : String) : plainName name = name ↔ ¬ IsRaw name := by
  by_cases h : IsRaw name
  · have hlength : 2 ≤ name.toList.length := h.length_le
    have hne : String.ofList (name.toList.drop 2) ≠ name := by
      intro heq
      have hshort := congrArg (fun n : String => n.toList.length) heq
      simp only [String.toList_ofList, List.length_drop] at hshort
      omega
    simp [plainName, h, hne]
  · simp [plainName, h]

/-! ## Objects -/

def Member.description : Member → MemberDescription
  | .field name tag _ => ⟨name, tag, none⟩
  | .unsupported name tag k => ⟨name, tag, some k⟩

/-- The members of an object, as they are listed. -/
def Object.listing (o : Object) : List MemberDescription :=
  o.members.map Member.description

theorem Member.description_fill (m : Member) : m.fill.state.description = m.description := by
  cases m with
  | unsupported name tag k =>
      rw [fill]
      cases Tag.parse tag <;> rfl
  | field name tag f =>
      rw [fill]
      cases Tag.parse tag with
      | error e => rfl
      | ok t => cases h : t.ignore <;> simp [h, Attempt.map, description]

theorem listing_allocateAll (ms : List Member) :
    (allocateAll ms).state.map Member.description = ms.map Member.description := by
  induction ms with
  | nil => simp [allocateAll]
  | cons m ms ih =>
      have hfill := m.description_fill
      rw [allocateAll]
      split <;> simp_all [Attempt.map]

theorem Object.listing_allocate (o : Object) : o.allocate.state.listing = o.listing := by
  obtain ⟨label, typeName, table, primaryKey, members⟩ := o
  simp [allocate, Attempt.map, listing, listing_allocateAll]

theorem Object.listing_assignAt? {v : Value} {path : List Nat} {o : Object} {a : Attempt Object}
    (h : o.assignAt? v path = some a) : a.state.listing = o.listing := by
  cases path with
  | nil => simp [assignAt?] at h
  | cons i path =>
      rw [assignAt?] at h
      split at h
      · rename_i name tag f hmember
        obtain ⟨b, -, rfl⟩ := Option.map_eq_some_iff.mp h
        have hi : (o.members.map Member.description)[i]? = some ⟨name, tag, none⟩ := by
          rw [List.getElem?_map, hmember]
          rfl
        obtain ⟨hlt, hi⟩ := List.getElem?_eq_some_iff.mp hi
        simp only [Attempt.map, listing, List.map_set, Member.description]
        rw [← hi, List.set_getElem_self]
      · cases h

/-- A fresh object lists what the description says, if there is a content for each field. -/
theorem StructDescription.description_membersWith (ds : List MemberDescription)
    (contents : List Field) (h : (ds.filter (·.unsupported.isNone)).length ≤ contents.length) :
    (membersWith ds contents).map Member.description = ds := by
  induction ds generalizing contents with
  | nil => rfl
  | cons d ds ih =>
      obtain ⟨name, tag, unsupported⟩ := d
      cases unsupported with
      | some k => simp [membersWith, Member.description, ih contents (by simpa using h)]
      | none =>
          cases contents with
          | nil => simp at h
          | cons f contents =>
              simp [membersWith, Member.description, ih contents (by simpa using h)]

/-- What an object may become: its optional members are filled, or a value is assigned to a place in
it, any number of times and successfully or not. -/
inductive Object.Becomes (o : Object) : Object → Prop
  | refl : o.Becomes o
  | filled {p : Object} (h : o.Becomes p) : o.Becomes p.allocate.state
  | assigned {p : Object} {v : Value} {path : List Nat} {a : Attempt Object} (h : o.Becomes p)
      (ha : p.assignAt? v path = some a) : o.Becomes a.state

theorem Object.Becomes.listing_eq {o p : Object} (h : o.Becomes p) : p.listing = o.listing := by
  induction h with
  | refl => rfl
  | filled _ ih => rw [listing_allocate, ih]
  | assigned _ ha ih => rw [listing_assignAt? ha, ih]

/-! ## Structs -/

namespace StructDeclaration

variable {s : StructDeclaration}

/-- The members that count. -/
def published (s : StructDeclaration) : List MemberDeclaration :=
  s.members.filter (·.isPublic)

/-- The declaration can be read. -/
structure Readable (s : StructDeclaration) : Prop where
  attributes : ∀ e ∈ s.attributes.flatten, KnownEntry e
  members : ∀ m ∈ s.published, m.Readable

theorem describe_eq_ok {d : StructDescription} :
    s.describe = .ok d ↔
      ∃ d₀ ds, ({ name := s.name } : StructDescription).readKeys s.attributes.flatten = .ok d₀ ∧
        describeMembers s.members = .ok ds ∧ d = { d₀ with members := ds } := by
  rw [describe]
  cases StructDescription.readKeys _ s.attributes.flatten with
  | error reason => simp [bind, Except.bind, Except.mapError]
  | ok d₀ =>
      cases describeMembers s.members <;>
        simp [bind, Except.bind, Except.mapError, pure, Except.pure, eq_comm]

theorem describe_isOk_iff : (∃ d, s.describe = .ok d) ↔ s.Readable := by
  have hkeys := StructDescription.readKeys_isOk_iff { name := s.name } s.attributes.flatten
  have hpublic : (∀ m ∈ s.published, m.Readable) ↔
      ∀ m ∈ s.members, m.isPublic = true → m.Readable := by
    simp [published]
  constructor
  · rintro ⟨d, h⟩
    obtain ⟨d₀, ds, hd₀, hds, -⟩ := describe_eq_ok.mp h
    exact ⟨hkeys.mp ⟨d₀, hd₀⟩, hpublic.mpr (describeMembers_eq_ok_iff.mp hds).1⟩
  · intro h
    obtain ⟨d₀, hd₀⟩ := hkeys.mpr h.attributes
    have hds := describeMembers_eq_ok_iff.mpr ⟨hpublic.mp h.members, rfl⟩
    exact ⟨_, describe_eq_ok.mpr ⟨d₀, _, hd₀, hds, rfl⟩⟩

theorem members_of_describe {d : StructDescription} (h : s.describe = .ok d) :
    d.members = s.published.map (·.written) := by
  obtain ⟨d₀, ds, -, hds, rfl⟩ := describe_eq_ok.mp h
  exact (describeMembers_eq_ok_iff.mp hds).2

theorem describe_isError_iff : (∃ f, s.describe = .error f) ↔ ¬ s.Readable := by
  rw [← describe_isOk_iff]
  cases s.describe <;> simp

/-- An attribute or the annotation of a public member is no such thing, or nothing is known of the
type of a public member that its tag does not leave out. -/
inductive AtFault (s : StructDeclaration) : Prop
  | entry {e : String × Option Literal} (he : e ∈ s.attributes.flatten) (h : ¬ KnownEntry e)
  | tag {m : MemberDeclaration} (hm : m ∈ s.published) (h : m.tag? = none)
  | type {m : MemberDeclaration} {t : Tag} (hm : m ∈ s.published) (ht : m.tag? = some t)
      (hkept : t.ignore = false) (h : m.type.HidesUnknown)

/-- A declaration is refused just when it is at fault, and else lists its public members by their
names, raw or not. -/
structure Faithful (s : StructDeclaration) : Prop where
  refused : (∃ f, s.describe = .error f) ↔ s.AtFault
  listed : ∀ d, s.describe = .ok d →
    d.members = s.published.map fun m => { m.written with name := plainName m.name }

theorem AtFault.not_readable (h : s.AtFault) : ¬ s.Readable := by
  intro hread
  cases h with
  | entry he hunknown => exact hunknown (hread.attributes _ he)
  | tag hm hnone => exact (hread.members _ hm).tag hnone
  | type hm _ _ hhidden => exact (hread.members _ hm).type hhidden

/-- A declaration that is not at fault can be read if something is known of the type of each public
member, those included that their tags leave out. -/
theorem readable_iff_of_not_atFault (h : ¬ s.AtFault) :
    s.Readable ↔ ∀ m ∈ s.published, ¬ m.type.HidesUnknown := by
  constructor
  · exact fun hread m hm => (hread.members m hm).type
  · intro htypes
    refine ⟨fun e he => ?_, fun m hm => ⟨fun hnone => h (.tag hm hnone), htypes m hm⟩⟩
    by_contra hunknown
    exact h (.entry he hunknown)

theorem faithful_iff (s : StructDeclaration) :
    s.Faithful ↔
      s.AtFault ∨ ∀ m ∈ s.published, ¬ m.type.HidesUnknown ∧ ¬ IsRaw m.name := by
  have hlisting : s.published.map (·.written) =
        s.published.map (fun m => { m.written with name := plainName m.name }) ↔
      ∀ m ∈ s.published, ¬ IsRaw m.name := by
    simp [List.map_inj_left, MemberDeclaration.written, eq_comm (b := plainName _),
      plainName_eq_iff]
  by_cases hfault : s.AtFault
  · simp only [hfault, true_or, iff_true]
    exact
      { refused := by simp [describe_isError_iff, hfault, hfault.not_readable]
        listed := fun d hd => absurd (describe_isOk_iff.mp ⟨d, hd⟩) hfault.not_readable }
  · simp only [hfault, false_or, forall_and]
    rw [← readable_iff_of_not_atFault hfault, ← hlisting]
    constructor
    · intro h
      have hread : s.Readable := by
        by_contra hread
        exact hfault (h.refused.mp (describe_isError_iff.mpr hread))
      obtain ⟨d, hd⟩ := describe_isOk_iff.mpr hread
      exact ⟨hread, (members_of_describe hd).symm.trans (h.listed d hd)⟩
    · rintro ⟨hread, hplain⟩
      exact
        { refused := by simp [describe_isError_iff, hfault, hread]
          listed := fun d hd => (members_of_describe hd).trans hplain }

/-- What becomes of a declaration. It is refused just when it can not be read, and a member that its
tag leaves out counts as well. The description and all objects list the public members, each
with its annotation and the shape that its type has within optional types and parentheses, but under
its name as it is written. So a declaration that is not at fault is refused or misread just when a
public member has a type that nothing is known of or a raw name. -/
theorem describes_published_iff (s : StructDeclaration) :
    ((∃ f, s.describe = .error f) ↔ ¬ s.Readable) ∧
      (∀ d, s.describe = .ok d →
        d.members = s.published.map (·.written) ∧
          ∀ contents : List Field,
            (d.members.filter (·.unsupported.isNone)).length ≤ contents.length →
              ∀ o, (d.object contents).Becomes o → o.listing = d.members) ∧
      (∀ t u : TypeExpr, t.Wraps u → t.marker? = u.marker?) ∧
      (s.Faithful ↔ s.AtFault ∨ ∀ m ∈ s.published, ¬ m.type.HidesUnknown ∧ ¬ IsRaw m.name) :=
  ⟨describe_isError_iff,
    fun d hd => ⟨members_of_describe hd, fun contents hcontents _ ho =>
      ho.listing_eq.trans (StructDescription.description_membersWith d.members contents hcontents)⟩,
    fun _ _ h => by rw [TypeExpr.marker?, TypeExpr.marker?, h.storage?_eq],
    s.faithful_iff⟩

/-- A user with a raw name. -/
def rawUser : StructDeclaration where
  name := "User"
  members := [Sample.member "r#type" (Sample.named "i64")]

/-- A user with a pointer that its tag leaves out. -/
def handledUser : StructDeclaration where
  name := "User"
  members := [Sample.tagged "handle" "-" (.pointer (Sample.named "u8"))]

theorem not_atFault_handledUser : ¬ handledUser.AtFault := by
  have hexcluded : ∀ m ∈ handledUser.published, m.tag? = some { ignore := true } := by
    intro m hm
    rw [List.mem_singleton.mp hm]
    decide
  intro h
  cases h with
  | entry he _ => exact absurd he (by simp [handledUser])
  | tag hm hnone => simp [hexcluded _ hm] at hnone
  | type hm htag hkept _ =>
      rw [hexcluded _ hm, Option.some.injEq] at htag
      simp [← htag] at hkept

/-- The first is listed with the mark of the raw name, the second is refused for a type that does
not count. -/
theorem describes_published_users :
    (¬ rawUser.AtFault ∧ ¬ rawUser.Faithful) ∧ ¬ handledUser.AtFault ∧ ¬ handledUser.Faithful := by
  have hread : rawUser.Readable := describe_isOk_iff.mp ⟨_, rfl⟩
  have hraw : ¬ rawUser.AtFault := fun h => h.not_readable hread
  have hhandled := not_atFault_handledUser
  refine ⟨⟨hraw, fun h => ?_⟩, hhandled, fun h => ?_⟩
  · rcases (describes_published_iff rawUser).2.2.2.mp h with h | h
    · exact hraw h
    · exact (h _ (List.mem_singleton.mpr rfl)).2 (by decide)
  · rcases (describes_published_iff handledUser).2.2.2.mp h with h | h
    · exact hhandled h
    · exact (h _ (List.mem_singleton.mpr rfl)).1 ⟨_, .refl _, trivial⟩

end StructDeclaration

end SqlMapping
