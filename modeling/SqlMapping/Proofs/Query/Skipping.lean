import SqlMapping.Proofs.Query.Inserting

/-! # Skipped elements

An insert of several objects leaves out those that cannot be inserted on their own, with one
exception: after an object that can, one that is mapped without a column gives a row of nulls. -/

namespace SqlMapping

/-! ## Elements that are kept -/

section

variable {α : Type} {p : α → Bool} {l : List α}

/-- A list keeps from its first element of a kind on only such elements if it has no other one
after it. -/
theorem dropWhile_eq_filter_iff :
    l.dropWhile p = l.filter (!p ·) ↔ l.Pairwise fun a b => p a = false → p b = false := by
  induction l with
  | nil => simp
  | cons a l ih =>
      cases ha : p a with
      | true => simp [ha, ih]
      | false =>
          simp only [List.dropWhile_cons, List.filter_cons, ha, Bool.false_eq_true, if_false,
            Bool.not_false, if_true, List.cons.injEq, true_and, List.pairwise_cons, forall_const]
          rw [eq_comm, List.filter_eq_self]
          constructor
          · intro h
            have h : ∀ b ∈ l, p b = false := by simpa using h
            exact ⟨h, List.pairwise_of_forall_mem_list fun _ _ b hb _ => h b hb⟩
          · rintro ⟨h, -⟩ b hb
            simp [h b hb]

theorem head?_dropWhile_eq_head?_filter : (l.dropWhile p).head? = (l.filter (!p ·)).head? := by
  induction l with
  | nil => rfl
  | cons a l ih => cases ha : p a <;> simp [ha, ih]

theorem filter_sublist_dropWhile : (l.filter (!p ·)).Sublist (l.dropWhile p) := by
  induction l with
  | nil => simp
  | cons a l ih =>
      cases ha : p a with
      | true => simpa [ha] using ih
      | false => simp [ha]

end

/-! ## Objects -/

namespace Batch

/-- Whether an object can be inserted on its own. -/
def accepts (naming : Naming) (o : Object) : Bool :=
  (ofObject naming o).isOk

/-- Whether an object can be mapped for an insert, but has no column. -/
def isHollow (naming : Naming) (o : Object) : Bool :=
  (Element.ofObject? naming o).any (·.columns.isEmpty)

variable {naming : Naming} {o : Object} {os : List Object}

/-- The objects that can be inserted are those that can be mapped and have a column. -/
theorem accepts_eq (naming : Naming) (o : Object) :
    accepts naming o = (Element.ofObject? naming o).any (!·.columns.isEmpty) := by
  rw [Bool.eq_iff_iff]
  constructor
  · intro h
    cases hb : ofObject naming o with
    | error e => simp [accepts, hb, Except.isOk, Except.toBool] at h
    | ok b =>
        obtain ⟨e, he, hcolumns, -⟩ := ofObject_eq_ok.mp hb
        simp [he, hcolumns]
  · intro h
    obtain ⟨e, he, hcolumns⟩ := (Option.any_eq_true _ _).mp h
    have hb := ofObject_eq_ok.mpr ⟨e, he, by simpa using hcolumns, rfl⟩
    simp [accepts, hb, Except.isOk, Except.toBool]

/-- Of the objects that can be inserted, all contribute. -/
theorem ofObjects_filter_accepts (naming : Naming) (os : List Object) :
    Element.ofObjects naming (os.filter (accepts naming)) =
      (os.filterMap (Element.ofObject? naming)).filter (!·.columns.isEmpty) := by
  have hkept : (os.filter (accepts naming)).filterMap (Element.ofObject? naming) =
      (os.filterMap (Element.ofObject? naming)).filter (!·.columns.isEmpty) := by
    rw [List.filterMap_filter, List.filter_filterMap]
    refine List.filterMap_congr fun o _ => ?_
    rw [accepts_eq]
    cases Element.ofObject? naming o with
    | none => simp
    | some e => cases he : e.columns.isEmpty <;> simp [he, Option.filter]
  rw [Element.ofObjects, hkept]
  cases hes : (os.filterMap (Element.ofObject? naming)).filter (!·.columns.isEmpty) with
  | nil => rfl
  | cons e es =>
      have he : e ∈ (os.filterMap (Element.ofObject? naming)).filter (!·.columns.isEmpty) :=
        hes ▸ List.mem_cons_self
      have hcolumns : e.columns.isEmpty = false := by simpa using (List.mem_filter.mp he).2
      simp [hcolumns]

/-- The objects that can be inserted are all that contribute, unless one of them stands before one
without a column. -/
theorem ofObjects_eq_filter_iff (naming : Naming) (os : List Object) :
    Element.ofObjects naming os = Element.ofObjects naming (os.filter (accepts naming)) ↔
      os.Pairwise fun a b => accepts naming a → ¬ isHollow naming b := by
  rw [ofObjects_filter_accepts, Element.ofObjects, dropWhile_eq_filter_iff,
    List.pairwise_filterMap]
  refine iff_of_eq (congrArg (os.Pairwise ·) (funext fun a => funext fun b => propext ?_))
  rw [accepts_eq, isHollow]
  cases Element.ofObject? naming a <;> cases Element.ofObject? naming b <;> simp

theorem head?_ofObjects_filter (naming : Naming) (os : List Object) :
    (Element.ofObjects naming (os.filter (accepts naming))).head? =
      (Element.ofObjects naming os).head? := by
  rw [ofObjects_filter_accepts, Element.ofObjects, head?_dropWhile_eq_head?_filter]

theorem ofObjects_filter_sublist (naming : Naming) (os : List Object) :
    (Element.ofObjects naming (os.filter (accepts naming))).Sublist
      (Element.ofObjects naming os) := by
  rw [ofObjects_filter_accepts]
  exact filter_sublist_dropWhile

theorem exists_ofObjects_filter (ho : o ∈ os) (h : accepts naming o) :
    ∃ first rest, Element.ofObjects naming (os.filter (accepts naming)) = first :: rest ∧
      first.columns ≠ [] := by
  obtain ⟨e, he, hcolumns⟩ := (Option.any_eq_true _ _).mp (accepts_eq naming o ▸ h)
  rw [ofObjects_filter_accepts]
  have hmem : e ∈ (os.filterMap (Element.ofObject? naming)).filter (!·.columns.isEmpty) :=
    List.mem_filter.mpr ⟨List.mem_filterMap.mpr ⟨o, ho, he⟩, hcolumns⟩
  obtain ⟨first, rest, hfirst⟩ := List.exists_cons_of_ne_nil (List.ne_nil_of_mem hmem)
  have hin := hfirst ▸ List.mem_cons_self (a := first) (l := rest)
  exact ⟨first, rest, hfirst, by simpa using (List.mem_filter.mp hin).2⟩

end Batch

/-! ## Statements -/

namespace Query

variable {q : Query} {naming : Naming} {os : List Object} {first : Element}
  {es fs : List Element}

/-- The insert of the elements of several objects. -/
def insertElements (q : Query) (es : List Element) : Result (Sql × List Value) := do
  q.check
  match Batch.ofElements? es with
  | none => .fail (.columnSetEmpty "insert struct batch")
  | some b =>
    let table := if q.table.isEmpty then b.table else q.table.name
    if table.isEmpty then .fail .tableMissing else return (b.sql table, b.rows.flatten)

theorem insertSql_objects (h : os ≠ []) :
    q.insertSql naming (.objects os) = q.insertElements (Element.ofObjects naming os) := by
  obtain ⟨o, os, rfl⟩ := List.exists_cons_of_ne_nil h
  rw [insertSql, insertElements, Batch.ofPayload, Batch.ofObjects?_eq]
  · cases q.check with
    | error e => rfl
    | ok u => cases Batch.ofElements? (Element.ofObjects naming (o :: os)) <;> rfl
  · simp

/-- Two inserts of the same first element differ as soon as one has further elements that the other
has not, unless both fail. -/
theorem insertElements_eq_iff (hcolumns : first.columns ≠ []) (h : fs.Sublist es) :
    q.insertElements (first :: es) = q.insertElements (first :: fs) ↔
      (∃ e, q.insertElements (first :: es) = .error e) ∨ es = fs := by
  let table := if q.table.isEmpty then first.table else q.table.name
  let batch (es : List Element) : Batch :=
    { table := first.table, columns := first.columns
      rows := (first :: es).map (·.row first.columns) }
  let written (es : List Element) : Result (Sql × List Value) :=
    if table.isEmpty then .fail .tableMissing
    else .ok ((batch es).sql table, (batch es).rows.flatten)
  have hinsert : ∀ es, q.insertElements (first :: es) = q.check >>= fun _ => written es :=
    fun _ => rfl
  rw [hinsert, hinsert]
  cases q.check with
  | error e => exact ⟨fun _ => .inl ⟨e, rfl⟩, fun _ => rfl⟩
  | ok u =>
      change written es = written fs ↔ (∃ e, written es = .error e) ∨ es = fs
      cases htable : table.isEmpty with
      | true => simp [written, htable, Result.fail]
      | false =>
          have hslots : ∀ es, ((batch es).sql table).slots =
              (es.length + 1) * first.columns.length := by
            simp [Batch.slots_sql, batch]
          simp only [written, htable, Bool.false_eq_true, if_false, reduceCtorEq, exists_false,
            false_or]
          constructor
          · intro heq
            obtain ⟨hsql, -⟩ := Prod.mk.inj (Except.ok.inj heq)
            have hrows := congrArg Sql.slots hsql
            rw [hslots, hslots] at hrows
            have hlength := Nat.eq_of_mul_eq_mul_right (List.length_pos_of_ne_nil hcolumns) hrows
            exact (h.eq_of_length (Nat.succ.inj hlength).symm).symm
          · rintro rfl
            rfl

end Query

/-- Rejected objects are left out of an insert wherever they stand, up to those that are mapped
without a column: one of them after an object that is accepted makes the insert another one. -/
theorem skips_by_element_iff (q : Query) (naming : Naming) (os : List Object) :
    ((∃ o ∈ os, Batch.accepts naming o) →
      (q.insertSql naming (.objects os) =
          q.insertSql naming (.objects (os.filter (Batch.accepts naming))) ↔
        (∃ e, q.insertSql naming (.objects os) = .error e) ∨
          os.Pairwise fun a b => Batch.accepts naming a → ¬ Batch.isHollow naming b)) ∧
    (os ≠ [] → (∀ o ∈ os, Batch.accepts naming o = false) →
      q.insertSql naming (.objects os) =
        .fail (q.failure.getD (.columnSetEmpty "insert struct batch"))) := by
  constructor
  · rintro ⟨o, ho, haccepts⟩
    have hkept : os.filter (Batch.accepts naming) ≠ [] :=
      List.ne_nil_of_mem (List.mem_filter.mpr ⟨ho, haccepts⟩)
    rw [Query.insertSql_objects (List.ne_nil_of_mem ho), Query.insertSql_objects hkept,
      ← Batch.ofObjects_eq_filter_iff]
    obtain ⟨first, fs, hfs, hcolumns⟩ := Batch.exists_ofObjects_filter ho haccepts
    obtain ⟨es, hes⟩ : ∃ es, Element.ofObjects naming os = first :: es := by
      have hhead := Batch.head?_ofObjects_filter naming os
      rw [hfs] at hhead
      exact List.head?_eq_some_iff.mp hhead.symm
    have hsublist := Batch.ofObjects_filter_sublist naming os
    rw [hes, hfs] at hsublist ⊢
    rw [Query.insertElements_eq_iff hcolumns (List.cons_sublist_cons.mp hsublist), List.cons.injEq]
    simp
  · intro hne hrejected
    have hnone : os.filter (Batch.accepts naming) = [] := by simpa using hrejected
    have hhead := Batch.head?_ofObjects_filter naming os
    rw [hnone] at hhead
    have helements : Element.ofObjects naming os = [] := List.head?_eq_none_iff.mp hhead.symm
    rw [Query.insertSql_objects hne, helements]
    simp only [Query.insertElements, Query.check]
    cases q.failure <;> rfl

/-- A visitor, and after her a record of which nothing is mapped. -/
def visitorAndNote : List Object :=
  [{ label := "Visitor", typeName := "", table := "visitors", primaryKey := "id"
     members := [.field "name" "col:name" (.scalar (.text "ann"))] },
    { label := "Note", typeName := "", table := "notes", primaryKey := "id"
      members := [.field "text" "-" (.scalar (.text "draft"))] }]

/-- The note cannot be inserted on its own, nor before the visitor. After her it gives a second
row, of a null. -/
theorem not_skipped_note :
    let insert (os : List Object) := (Query.empty .mysql).insertSql .snake (.objects os)
    (∃ o ∈ visitorAndNote, Batch.accepts .snake o) ∧
      visitorAndNote.map (Batch.accepts .snake) = [true, false] ∧
      insert visitorAndNote.reverse = insert (visitorAndNote.filter (Batch.accepts .snake)) ∧
      insert visitorAndNote ≠ insert (visitorAndNote.filter (Batch.accepts .snake)) ∧
      ∃ sql, insert visitorAndNote = .ok (sql, [.text (some "ann"), .null]) ∧ sql.slots = 2 := by
  intro insert
  have haccepts : ∃ o ∈ visitorAndNote, Batch.accepts .snake o :=
    ⟨_, List.mem_cons_self, by decide +kernel⟩
  have hinsert : ∃ sql, insert visitorAndNote = .ok (sql, [.text (some "ann"), .null]) ∧
      sql.slots = 2 := ⟨_, rfl, by decide +kernel⟩
  refine ⟨haccepts, by decide +kernel, rfl, fun heq => ?_, hinsert⟩
  obtain ⟨sql, hsql, -⟩ := hinsert
  rcases ((skips_by_element_iff (.empty .mysql) .snake visitorAndNote).1 haccepts).mp heq with
    ⟨e, he⟩ | hpairs
  · have he : insert visitorAndNote = .error e := he
    rw [hsql] at he
    cases he
  · revert hpairs
    decide +kernel

end SqlMapping
