import SqlMapping.Proofs.Mapping.Fields
import SqlMapping.Proofs.Query.Equations
import SqlMapping.Proofs.Query.Placeholder
import SqlMapping.Query.Write

/-! # Inserted rows

An insert writes one group of placeholders for each element that contributes a row, with one
placeholder for each column of the first such element. Row by row and column by column, the values
bound for it are those of the elements under these columns, null where an element has none. -/

namespace SqlMapping

/-! ## Elements -/

/-- An element of a payload: the table and the columns of an insert that it comes first in, and its
values by column. -/
structure Element where
  table : String
  columns : List String
  value? : String → Option Value

namespace Element

/-- A record by its keys, which ascend. -/
def ofRecord (r : Record) : Element :=
  { table := "", columns := r.map (·.1), value? := fun c => Entries.find? c r }

/-- An object as it is mapped: a column takes the last leaf that is mapped to it. -/
def ofMapped (m : Mapping) (o : Object) : Element where
  table := m.table.name
  columns := m.columns
  value? c := ((m.leavesOf o).reverse.find? (·.column = c)).map MappedField.insertValue

/-- The value of an object under a column is that of the member which the last leaf of the column
leads to; a time or codec that is not set is null. -/
theorem value?_ofMapped_eq_some_iff {m₀ m : Mapping} {mode : Mode} {o : Object}
    (h : m₀.parse mode o = ⟨m, none⟩) (c : String) (v : Value) :
    (ofMapped m o).value? c = some v ↔
      ∃ f g, (m.leavesOf o).reverse.find? (·.column = c) = some f ∧ o.at? f.path = some g ∧
        v = if (g.kind = .time ∨ g.kind = .codec) ∧ g.isZero ∧ f.tag.updateZero = false then .null
          else g.toValue := by
  have hvalue : ∀ f, (m.leavesOf o).reverse.find? (·.column = c) = some f →
      ∃ g, o.at? f.path = some g ∧ f.insertValue =
        if (g.kind = .time ∨ g.kind = .codec) ∧ g.isZero ∧ f.tag.updateZero = false then .null
        else g.toValue := by
    intro f hf
    obtain ⟨l, column, hat, rfl⟩ := Mapping.exists_leaf_of_mem_leavesOf h
      (List.mem_reverse.mp (List.mem_of_find?_eq_some hf))
    exact ⟨l.field, hat, l.insertValue_mapped column⟩
  rw [ofMapped, Option.map_eq_some_iff]
  constructor
  · rintro ⟨f, hf, rfl⟩
    obtain ⟨g, hg, heq⟩ := hvalue f hf
    exact ⟨f, g, hf, hg, heq⟩
  · rintro ⟨f, g, hf, hg, rfl⟩
    obtain ⟨g', hg', heq⟩ := hvalue f hf
    obtain rfl : g' = g := Option.some.inj (hg'.symm.trans hg)
    exact ⟨f, hf, heq⟩

/-- An object that can be mapped for an insert. -/
def ofObject? (naming : Naming) (o : Object) : Option Element :=
  match Mapping.parse { naming } .insert o with
  | ⟨m, none⟩ => some (ofMapped m o)
  | ⟨_, some _⟩ => none

/-- The values of an element under some columns. -/
def row (e : Element) (columns : List String) : List Value :=
  columns.map fun c => (e.value? c).getD .null

/-- The objects that contribute to an insert: those that can be mapped, from the first with a
column on. -/
def ofObjects (naming : Naming) (os : List Object) : List Element :=
  (os.filterMap (ofObject? naming)).dropWhile (·.columns.isEmpty)

end Element

def Payload.elements (naming : Naming) : Payload → List Element
  | .object o => Element.ofObjects naming [o]
  | .objects os => Element.ofObjects naming os
  | .record r => [.ofRecord r]
  | .records rs => rs.map .ofRecord

/-- The objects that a payload is made of; records are none. -/
def Payload.mapped : Payload → List Object
  | .object o => [o]
  | .objects os => os
  | .record _ | .records _ => []

/-! ## Batches -/

/-- A batch has the rows of some elements, under the columns of the first. It has the table of the
first as well, unless the query gives one. -/
inductive Batch.Collects (t : TableRef) (b : Batch) : List Element → Prop where
  | rows (first : Element) (rest : List Element) (hcolumns : first.columns ≠ [])
      (hb : b.columns = first.columns) (hrows : b.rows = (first :: rest).map (·.row first.columns))
      (htable : t.isEmpty = true → b.table = first.table) : Collects t b (first :: rest)

namespace Mapping

variable {m : Mapping} {o : Object}

theorem value?_ofMapped (h : m.fields = collect (m.leavesOf o)) (c : String) :
    (Element.ofMapped m o).value? c = (m.field? c).map MappedField.insertValue := by
  rw [Element.ofMapped, field?, h, find?_collect]

theorem valuesOf_eq_row (h : m.fields = collect (m.leavesOf o)) (columns : List String) :
    m.valuesOf columns = (Element.ofMapped m o).row columns := by
  simp [valuesOf, Element.row, value?_ofMapped h]

/-- An object's own columns give its values in the order of its fields. -/
theorem row_columns (h : m.fields = collect (m.leavesOf o)) :
    (Element.ofMapped m o).row m.columns = m.fields.map MappedField.insertValue := by
  have hnodup : (m.fields.map MappedField.column).Nodup := h ▸ nodup_columns_collect _
  rw [Element.row, columns, List.map_map]
  refine List.map_congr_left fun f hf => ?_
  simp [value?_ofMapped h, (mem_fields_iff hnodup).mp hf]

end Mapping

namespace Batch

variable {naming : Naming} {o : Object} {os : List Object} {b : Batch}

theorem ofObject_eq_ok :
    ofObject naming o = .ok b ↔ ∃ e, Element.ofObject? naming o = some e ∧ e.columns ≠ [] ∧
      { table := e.table, columns := e.columns, rows := [e.row e.columns] } = b := by
  unfold ofObject Element.ofObject?
  rcases hparse : Mapping.parse { naming } .insert o with ⟨m, failure⟩
  cases failure with
  | some e => simp [Attempt.result, bind, Except.bind]
  | none =>
      have hfields := Mapping.fields_of_parse hparse
      have hcolumns : m.insertValues.map (·.1) = m.columns := by
        simp [Mapping.insertValues, Mapping.columns]
      have hrow : m.insertValues.map (·.2) = (Element.ofMapped m o).row m.columns := by
        rw [Mapping.row_columns hfields]
        simp [Mapping.insertValues]
      have hempty : m.insertValues.isEmpty = m.columns.isEmpty := by
        simp [Mapping.insertValues, Mapping.columns]
      simp only [Attempt.result, Result.bind_eq_ok, hcolumns, hrow, hempty]
      by_cases hnil : m.columns = []
      · simp [hnil, Element.ofMapped, Result.fail]
      · simp [hnil, Element.ofMapped, pure, Except.pure]

/-- Each further object that can be mapped adds a row. -/
theorem foldl_addObject (naming : Naming) (os : List Object) (b : Batch) :
    os.foldl (addObject naming) b =
      { b with
        rows := b.rows ++ (os.filterMap (Element.ofObject? naming)).map (·.row b.columns) } := by
  induction os generalizing b with
  | nil => simp
  | cons o os ih =>
      rw [List.foldl_cons, ih]
      unfold addObject
      rcases hparse : Mapping.parse { naming } .insert o with ⟨m, failure⟩
      cases failure with
      | some e => simp [Element.ofObject?, hparse]
      | none =>
          have hrow := Mapping.valuesOf_eq_row (Mapping.fields_of_parse hparse) b.columns
          simp [Element.ofObject?, hparse, hrow]

/-- The batch of some elements, if there is one. -/
def ofElements? : List Element → Option Batch
  | [] => none
  | first :: rest =>
    some
      { table := first.table, columns := first.columns
        rows := (first :: rest).map (·.row first.columns) }

/-- A batch of objects is that of the elements that contribute to it. -/
theorem ofObjects?_eq (naming : Naming) (os : List Object) :
    ofObjects? naming os = ofElements? (Element.ofObjects naming os) := by
  induction os with
  | nil => rfl
  | cons o os ih =>
      rw [ofObjects?]
      cases hb : ofObject naming o with
      | ok b =>
          obtain ⟨e, he, hcolumns, rfl⟩ := ofObject_eq_ok.mp hb
          have helements : Element.ofObjects naming (o :: os) =
              e :: os.filterMap (Element.ofObject? naming) := by
            simp [Element.ofObjects, he, hcolumns]
          simp only [helements, foldl_addObject]
          rfl
      | error e =>
          have hskipped : Element.ofObjects naming (o :: os) = Element.ofObjects naming os := by
            cases he : Element.ofObject? naming o with
            | none => simp [Element.ofObjects, he]
            | some e =>
                -- An object with a column would have made a batch.
                by_cases hcolumns : e.columns = []
                · simp [Element.ofObjects, he, hcolumns]
                · have hok := ofObject_eq_ok.mpr ⟨e, he, hcolumns, rfl⟩
                  rw [hb] at hok
                  cases hok
          rw [hskipped]
          exact ih

theorem collects_of_ofObjects? (t : TableRef) (h : ofObjects? naming os = some b) :
    b.Collects t (Element.ofObjects naming os) := by
  rw [ofObjects?_eq] at h
  cases hes : Element.ofObjects naming os with
  | nil => simp [hes, ofElements?] at h
  | cons first rest =>
      have hfirst := List.head?_dropWhile_not (·.columns.isEmpty)
        (os.filterMap (Element.ofObject? naming))
      rw [← Element.ofObjects, hes] at hfirst
      rw [hes] at h
      obtain rfl := Option.some.inj h
      exact .rows first rest (by simpa using hfirst) rfl rfl fun _ => rfl

theorem collects_of_ofRecords {t : TableRef} {rs : List Record} (h : ofRecords t rs = .ok b) :
    b.Collects t (rs.map Element.ofRecord) := by
  unfold ofRecords at h
  split at h
  · cases h
  · rename_i htable
    cases rs with
    | nil => cases h
    | cons first rest =>
        cases first with
        | nil => cases h
        | cons entry entries =>
            obtain rfl := Except.ok.inj h
            refine .rows (.ofRecord (entry :: entries)) _ ?_ rfl ?_ fun ht => absurd ht htable
            · simp [Element.ofRecord]
            · simp [Element.ofRecord, Element.row, Function.comp_def]

/-- A batch of a payload with objects is that of its objects. -/
theorem ofObjects?_of_ofPayload {t : TableRef} {p : Payload} (hp : p.mapped ≠ [])
    (h : ofPayload naming t p = .ok b) : ofObjects? naming p.mapped = some b := by
  cases p with
  | object o =>
      change ofObject naming o = .ok b at h
      simp [Payload.mapped, ofObjects?, h]
  | objects os =>
      cases os with
      | nil => exact absurd rfl hp
      | cons o os =>
          simp only [ofPayload] at h
          split at h
          · rename_i hb
            exact Except.ok.inj h ▸ hb
          · cases h
  | record r => exact absurd rfl hp
  | records rs => exact absurd rfl hp

theorem collects_of_ofPayload {t : TableRef} {p : Payload} (h : ofPayload naming t p = .ok b) :
    b.Collects t (p.elements naming) := by
  cases p with
  | object o =>
      exact collects_of_ofObjects? t (ofObjects?_of_ofPayload (by simp [Payload.mapped]) h)
  | objects os =>
      have hos : Payload.mapped (.objects os) ≠ [] := by
        rintro rfl
        cases h
      exact collects_of_ofObjects? t (ofObjects?_of_ofPayload hos h)
  | record r =>
      have h : ofRecords t [r] = .ok b := h
      exact collects_of_ofRecords h
  | records rs => exact collects_of_ofRecords h

end Batch

/-! ## The statement -/

/-- Some groups of as many placeholders each. -/
def Sql.groups (rows width : Nat) : Sql :=
  List.intercalate [.word ","]
    (List.replicate rows
      (.word "(" :: List.intercalate [.word ","] (List.replicate width [.mark]) ++ [.word ")"]))

namespace Batch

variable (b : Batch) (table : String)

theorem sql_eq :
    b.sql table = .word "insert into " :: .name table :: .word " (" :: Sql.columns b.columns ++
      .word ") values " :: Sql.groups b.rows.length b.columns.length := by
  have hgroup : group b.columns.length = .word "(" ::
      List.intercalate [.word ","] (List.replicate b.columns.length [.mark]) ++ [.word ")"] := by
    rw [group, Sql.placeholders, Text.joinPieces_eq_intercalate (by simp)]
  rw [sql, Sql.groups, ← hgroup, Text.joinPieces_eq_intercalate]
  · rfl
  · intro s hs
    rw [List.eq_of_mem_replicate hs, group]
    simp

theorem slots_sql : (b.sql table).slots = b.rows.length * b.columns.length := by
  simp [sql, Sql.slots_replicate, group, Sql.table]

end Batch

theorem Element.getElem?_flatMap_row {columns : List String} {es : List Element} {i j : Nat}
    {e : Element} {c : String} (he : es[i]? = some e) (hc : columns[j]? = some c) :
    (es.flatMap (·.row columns))[i * columns.length + j]? =
      some ((e.value? c).getD .null) := by
  have hj : j < columns.length := (List.getElem?_eq_some_iff.mp hc).1
  induction es generalizing i with
  | nil => simp at he
  | cons e' es ih =>
      rw [List.flatMap_cons]
      cases i with
      | zero =>
          obtain rfl : e' = e := by simpa using he
          rw [List.getElem?_append_left (by simpa [row] using hj)]
          simp [row, hc]
      | succ i =>
          have hlength : (e'.row columns).length = columns.length := by simp [row]
          rw [List.getElem?_append_right (by rw [hlength, Nat.succ_mul]; omega), hlength]
          have hindex : (i + 1) * columns.length + j - columns.length =
              i * columns.length + j := by
            rw [Nat.succ_mul]
            omega
          rw [hindex]
          exact ih (by simpa using he)

/-- An insert into a table: below the columns of its first element it has a group of placeholders
for every element, and the values of each element under these columns. -/
structure Inserts (sql : Sql) (table : String) (columns : List String) (elements : List Element)
    (values : List Value) : Prop where
  text : sql = .word "insert into " :: .name table :: .word " (" :: Sql.columns columns ++
    .word ") values " :: Sql.groups elements.length columns.length
  slots : sql.slots = elements.length * columns.length
  length : values.length = elements.length * columns.length
  entry : ∀ i j e c, elements[i]? = some e → columns[j]? = some c →
    values[i * columns.length + j]? = some ((e.value? c).getD .null)

theorem Batch.Collects.inserts {t : TableRef} {b : Batch} {es : List Element}
    (h : b.Collects t es) (table : String) :
    Inserts (b.sql table) table b.columns es b.rows.flatten := by
  obtain ⟨first, rest, hcolumns, hb, hrows, -⟩ := h
  have hlength : b.rows.length = (first :: rest).length := by rw [hrows, List.length_map]
  have hvalues : b.rows.flatten = (first :: rest).flatMap (·.row b.columns) := by
    rw [hrows, hb, List.flatMap_def]
  exact {
    text := by rw [b.sql_eq, hlength]
    slots := by rw [b.slots_sql, hlength]
    length := by
      have hrow : ∀ e : Element, (e.row b.columns).length = b.columns.length := by
        simp [Element.row]
      simp [hvalues, List.length_flatMap, hrow, List.map_const', Nat.succ_mul, Nat.add_comm]
    entry := fun i j e c he hc => hvalues ▸ Element.getElem?_flatMap_row he hc }

theorem Query.insertSql_eq_ok {q : Query} {naming : Naming} {p : Payload} {sql : Sql}
    {values : List Value} :
    q.insertSql naming p = .ok (sql, values) ↔
      q.failure = none ∧ ∃ b, Batch.ofPayload naming q.table p = .ok b ∧
        ∃ table, (if q.table.isEmpty then b.table else q.table.name) = table ∧ table ≠ "" ∧
          b.sql table = sql ∧ b.rows.flatten = values := by
  simp only [insertSql, Result.bind_eq_ok, check_eq_ok]
  constructor
  · rintro ⟨-, hfailure, b, hb, h⟩
    generalize htable : (if q.table.isEmpty = true then b.table else q.table.name) = table at h
    by_cases hempty : table = ""
    · rw [if_pos (by simp [hempty])] at h
      cases h
    · rw [if_neg (by simpa using hempty)] at h
      obtain ⟨rfl, rfl⟩ := Prod.mk.inj (Except.ok.inj h)
      exact ⟨hfailure, b, hb, table, htable, hempty, rfl, rfl⟩
  · rintro ⟨hfailure, b, hb, table, rfl, htable, rfl, rfl⟩
    refine ⟨(), hfailure, b, hb, ?_⟩
    rw [if_neg (by simpa using htable)]
    rfl

/-- An insert is a full matrix: it has a row for every element that contributes and a column for
every column of the first of these, and every value stands where its element and its column meet.
The query's table comes before the one of the first element. -/
theorem inserts_elements (q : Query) (naming : Naming) (p : Payload) (sql : Sql)
    (values : List Value) (h : q.insertSql naming p = .ok (sql, values)) :
    ∃ first rest table, p.elements naming = first :: rest ∧ first.columns ≠ [] ∧ table ≠ "" ∧
      table = (if q.table.isEmpty then first.table else q.table.name) ∧
        Inserts sql table first.columns (first :: rest) values := by
  obtain ⟨-, b, hb, table, htable, hne, rfl, rfl⟩ := Query.insertSql_eq_ok.mp h
  have hcollects := Batch.collects_of_ofPayload hb
  have hinserts := hcollects.inserts table
  generalize p.elements naming = es at hcollects hinserts
  obtain ⟨first, rest, hne', hcolumns, -, hfirst⟩ := hcollects
  refine ⟨first, rest, table, rfl, hne', hne, ?_, hcolumns ▸ hinserts⟩
  cases hempty : q.table.isEmpty with
  | true => simpa [hempty, hfirst hempty] using htable.symm
  | false => simpa [hempty] using htable.symm

/-- Objects of several types: two that give no row, one that decides the columns, and after it one
that fails, one with other columns and one without a column. -/
def mixedBatch : List Object :=
  [{ label := "Broken", typeName := "", table := "broken", primaryKey := "id"
     members := [.unsupported "items" "" .slice] },
    { label := "Hidden", typeName := "", table := "hidden", primaryKey := "id"
      members := [.field "secret" "-" (.scalar (.text "s"))] },
    { label := "User", typeName := "", table := "users as u", primaryKey := "id"
      members :=
        [.field "name" "col:name" (.scalar (.text "ann")),
          .field "born" "col:born" (.scalar (.time .zero))] },
    { label := "Typo", typeName := "", table := "users", primaryKey := "id"
      members := [.field "name" "column:name" (.scalar (.text "bob"))] },
    { label := "Visit", typeName := "", table := "visits", primaryKey := "id"
      members :=
        [.field "at" "col:at" (.scalar (.boolean true)),
          .field "who" "col:name" (.optional .text "String" none none)] },
    { label := "Hidden", typeName := "", table := "hidden", primaryKey := "id"
      members := [.field "secret" "-" (.scalar (.text "s"))] }]

theorem inserts_mixedBatch :
    ∃ sql values,
      (Query.empty .mysql).insertSql .snake (.objects mixedBatch) = .ok (sql, values) ∧
      values.length = 6 ∧ ∃ first rest table,
        Payload.elements .snake (.objects mixedBatch) = first :: rest ∧ first.columns ≠ [] ∧
          table ≠ "" ∧ table = (if (Query.empty .mysql).table.isEmpty then first.table
            else (Query.empty .mysql).table.name) ∧
              Inserts sql table first.columns (first :: rest) values :=
  ⟨_, _, rfl, by decide +kernel, inserts_elements (.empty .mysql) .snake _ _ _ rfl⟩

end SqlMapping
