import SqlMapping.Proofs.DateTime
import SqlMapping.Proofs.Mapping.Fields
import SqlMapping.Proofs.Query.Inserting

/-! # Inserted times

The zero time stands for a time that is not set: a member that is the zero time itself is inserted
as null. An optional one that holds the zero time counts as set, and so does a time that differs
from it by less than a second. These are inserted as text, and it is the text of the zero time. -/

namespace SqlMapping

/-- A member for a time and the time it holds; none where an optional one is absent. -/
inductive Field.HoldsTime : Field → Option DateTime → Prop
  | plain (d : DateTime) : HoldsTime (.scalar (.time d)) (some d)
  | absent (n : String) (fresh : Option Field) : HoldsTime (.optional .time n fresh none) none
  | present {k : Kind} {n : String} {fresh : Option Field} {f : Field} {t : Option DateTime}
      (h : f.HoldsTime t) : HoldsTime (.optional k n fresh (some f)) t

/-- A leaf of an object that an insert writes, and the place of its value: in the row of the object,
below a column that the leaf is the last one of. -/
inductive Payload.Writes (naming : Naming) (p : Payload) : Leaf → Nat → Prop
  | mk {o : Object} {m : Mapping} {l : Leaf} {c : String} {first : Element} {i j k : Nat}
      (hparse : Mapping.parse { naming } .insert o = ⟨m, none⟩)
      (hrow : (p.elements naming)[i]? = some (.ofMapped m o))
      (hfirst : (p.elements naming).head? = some first) (hcolumn : first.columns[j]? = some c)
      (hleaf : l ∈ o.leaves []) (hfield : l.mapped c ∈ m.fields)
      (hplace : k = i * first.columns.length + j) : Writes naming p l k

variable {naming : Naming} {p : Payload} {l : Leaf} {k : Nat}

/-! ## The text of a time -/

theorem DateTime.text_eq_iff (d e : DateTime) : d.text = e.text ↔ d.toSecond = e.toSecond := by
  constructor
  · intro h
    have hparse := congrArg parse? h
    rw [parse?_text, parse?_text] at hparse
    exact Option.some.inj hparse
  · intro h
    calc d.text = d.toSecond.text := rfl
      _ = e.toSecond.text := by rw [h]
      _ = e.text := rfl

/-! ## The value of a time -/

namespace Field.HoldsTime

variable {f : Field} {d : DateTime}

theorem kind_of_none (h : f.HoldsTime none) : f.kind = .null := by
  generalize ht : none = t at h
  induction h with
  | plain d => cases ht
  | absent n fresh => rfl
  | present _ ih => exact ih ht

theorem of_some (h : f.HoldsTime (some d)) :
    f.kind = .time ∧ f.toValue = .text (some d.text) ∧
      (f.isZero = true ↔ f = .scalar (.time .zero)) := by
  generalize ht : some d = t at h
  induction h with
  | plain e =>
      obtain rfl := Option.some.inj ht
      exact ⟨rfl, rfl, by simp [isZero, Scalar.isZero]⟩
  | absent n fresh => cases ht
  | present _ ih => exact ⟨(ih ht).1, (ih ht).2.1, by simp [isZero]⟩

end Field.HoldsTime

theorem Leaf.insertValue_of_some {d : DateTime} (h : l.field.HoldsTime (some d)) (c : String) :
    (l.mapped c).insertValue =
      if l.field.isZero && !l.tag.updateZero then .null else .text (some d.text) := by
  obtain ⟨hkind, hvalue, -⟩ := h.of_some
  simp [insertValue_mapped, hkind, hvalue]

theorem Leaf.insertValue_eq_null_iff {t : Option DateTime} (h : l.field.HoldsTime t) (c : String) :
    (l.mapped c).insertValue = .null ↔
      t = none ∨ l.field = .scalar (.time .zero) ∧ l.tag.updateZero = false := by
  cases t with
  | none => simp [insertValue_mapped, l.field.toValue_of_kind_null h.kind_of_none]
  | some d =>
      obtain ⟨-, -, hzero⟩ := h.of_some
      rw [insertValue_of_some h, ← hzero]
      cases l.field.isZero <;> cases l.tag.updateZero <;> simp

theorem Leaf.insertValue_of_ne_null {t : Option DateTime} (h : l.field.HoldsTime t) (c : String)
    (hset : (l.mapped c).insertValue ≠ .null) :
    ∃ d, t = some d ∧ (l.mapped c).insertValue = .text (some d.text) := by
  cases t with
  | none => exact absurd ((insertValue_eq_null_iff h c).mpr (.inl rfl)) hset
  | some d =>
      rw [insertValue_of_some h] at hset ⊢
      exact ⟨d, rfl, if_neg fun hunset => hset (if_pos hunset)⟩

/-! ## The statement -/

/-- A leaf is written in its place. -/
theorem Payload.Writes.getElem? {q : Query} {sql : Sql} {values : List Value}
    (h : p.Writes naming l k) (hinsert : q.insertSql naming p = .ok (sql, values)) :
    ∃ c, values[k]? = some (l.mapped c).insertValue := by
  obtain ⟨-, b, hb, table, -, -, rfl, rfl⟩ := Query.insertSql_eq_ok.mp hinsert
  have hcollects := Batch.collects_of_ofPayload hb
  obtain @⟨o, m, l, c, first, i, j, k, hparse, hrow, hfirst, hcolumn, -, hfield, rfl⟩ := h
  have hentry := (hcollects.inserts table).entry i j _ c hrow
  have hcolumns : b.columns = first.columns := by
    generalize p.elements naming = es at hcollects hfirst
    obtain ⟨_, _, -, hcolumns, -, -⟩ := hcollects
    obtain rfl := Option.some.inj hfirst
    exact hcolumns
  have hvalue : (Element.ofMapped m o).value? c = some (l.mapped c).insertValue := by
    have hfound : m.field? c = some (l.mapped c) :=
      (Mapping.mem_fields_iff (Mapping.fits_of_parse hparse).nodup).mp hfield
    rw [Mapping.value?_ofMapped (Mapping.fields_of_parse hparse), hfound]
    rfl
  rw [hcolumns, hvalue] at hentry
  exact ⟨c, hentry hcolumn⟩

/-- A time is inserted as null if it is absent, or is the zero time itself and not kept by its tag;
else as its text. This is the text of the zero time for each time in the same second. -/
theorem inserted_time_iff {q : Query} {sql : Sql} {values : List Value} {t : Option DateTime}
    (hinsert : q.insertSql naming p = .ok (sql, values)) (hwrites : p.Writes naming l k)
    (htime : l.field.HoldsTime t) :
    ∃ v, values[k]? = some v ∧
      (v = .null ↔ t = none ∨ l.field = .scalar (.time .zero) ∧ l.tag.updateZero = false) ∧
      (v ≠ .null → ∃ d, t = some d ∧ v = .text (some d.text)) ∧
      (v = .text (some DateTime.zero.text) ↔
        v ≠ .null ∧ ∃ d, t = some d ∧ d.toSecond = .zero) := by
  obtain ⟨c, hvalue⟩ := hwrites.getElem? hinsert
  refine ⟨_, hvalue, Leaf.insertValue_eq_null_iff htime c, Leaf.insertValue_of_ne_null htime c, ?_⟩
  constructor
  · intro hzero
    have hset : (l.mapped c).insertValue ≠ .null := by simp [hzero]
    obtain ⟨d, ht, htext⟩ := Leaf.insertValue_of_ne_null htime c hset
    have heq : d.text = DateTime.zero.text := by simpa [hzero, eq_comm] using htext
    exact ⟨hset, d, ht, (d.text_eq_iff .zero).mp heq⟩
  · rintro ⟨hset, d, rfl, hsecond⟩
    obtain ⟨e, ht, htext⟩ := Leaf.insertValue_of_ne_null htime c hset
    obtain rfl := Option.some.inj ht
    have heq : d.text = DateTime.zero.text := (d.text_eq_iff .zero).mpr hsecond
    rw [htext, heq]

/-- An optional time that is present, and is the zero time. -/
def presentZero : Field :=
  .optional .time "PrimitiveDateTime" (some (.scalar (.time .zero))) (some (.scalar (.time .zero)))

def zeroPost : Object :=
  { label := "Post", typeName := "Post", table := "posts", primaryKey := "id"
    members := [.field "published" "col:published" presentZero] }

def zeroLeaf : Leaf :=
  { path := [0], tag := { column := some "published" }, field := presentZero }

def mappedPost : Attempt Mapping :=
  Mapping.parse { naming := .snake } .insert zeroPost

theorem zeroPost_writes : Payload.Writes .snake (.object zeroPost) zeroLeaf 0 := by
  have hparse : mappedPost = ⟨mappedPost.state, none⟩ := Attempt.eq_of_failure (by decide +kernel)
  have helements : Payload.elements .snake (.object zeroPost) =
      [.ofMapped mappedPost.state zeroPost] := rfl
  have hfields : mappedPost.state.fields = [zeroLeaf.mapped "published"] := rfl
  have hleaves : zeroPost.leaves [] = [zeroLeaf] := rfl
  exact .mk (c := "published") (i := 0) (j := 0) hparse (by rw [helements]; rfl)
    (by rw [helements]; rfl) rfl (by simp [hleaves]) (by simp [hfields]) rfl

/-- The zero time is inserted as its text where an optional member holds it. -/
theorem inserted_zeroPost :
    ∃ sql values, (Query.empty .mysql).insertSql .snake (.object zeroPost) = .ok (sql, values) ∧
      values[0]? = some (.text (some "0001-01-01 00:00:00")) := by
  obtain ⟨sql, values, hinsert⟩ : ∃ sql values,
      (Query.empty .mysql).insertSql .snake (.object zeroPost) = .ok (sql, values) := ⟨_, _, rfl⟩
  obtain ⟨v, hv, hnull, -, hzero⟩ :=
    inserted_time_iff hinsert zeroPost_writes (.present (.plain .zero))
  have hset : v ≠ .null := by simp [hnull, zeroLeaf, presentZero]
  have htext : v = .text (some "0001-01-01 00:00:00") := hzero.mpr ⟨hset, _, rfl, rfl⟩
  exact ⟨sql, values, hinsert, htext ▸ hv⟩

end SqlMapping
