import SqlMapping.Proofs.Mapping.Colliding
import SqlMapping.Proofs.Mapping.Enclosing
import SqlMapping.Proofs.Query.Skipping

/-! # Qualified columns of inserts

An insert drops the alias of its table, but not those of extensions: the column of a leaf within an
extension is written with the alias of that extension, as if it were one of a joined table. -/

namespace SqlMapping

/-! ## Columns of leaves -/

/-- The column of a leaf in an insert: its own name, and the alias that is put before it. -/
structure LeafColumn where
  aliasName : String
  name : String

namespace LeafColumn

/-- The column as it is listed. -/
def text (c : LeafColumn) : String :=
  if c.aliasName = "" then c.name else c.aliasName ++ "." ++ c.name

theorem point_mem_text (c : LeafColumn) :
    '.' ∈ c.text.toList ↔ c.aliasName ≠ "" ∨ '.' ∈ c.name.toList := by
  rw [text]
  by_cases halias : c.aliasName = "" <;> simp [halias]

end LeafColumn

/-- What the members of an object are resolved against in an insert. -/
def Scope.inserting (naming : Naming) : Scope :=
  { naming, aliases := none, mode := .insert }

/-- The columns of the leaves of an object. Unless its tag forbids it, a leaf has the alias of the
innermost extension around it, or a given one outside of all. -/
def Object.leafColumns (s : Scope) (qualifier : String) (o : Object) : List LeafColumn :=
  let stops := o.walk s qualifier []
  stops.filterMap fun p => (p.leaf? s).map fun f =>
    { aliasName :=
        if f.tag.useAlias then innermostAlias qualifier (Stop.enclosing s stops p.path) else ""
      name := f.tag.columnName p.member.name s.naming }

/-- The columns of the leaves of an object in an insert, where no alias is given. -/
def Object.insertColumns (naming : Naming) (o : Object) : List LeafColumn :=
  o.leafColumns (.inserting naming) ""

theorem Stop.column_leaf? {s : Scope} {p : Stop} {f : MappedField} (h : p.leaf? s = some f) :
    f.column = s.column p.qualifier p.member.name f.tag := by
  obtain ⟨path, qualifier, member⟩ := p
  cases member with
  | unsupported name tag k => cases h
  | field name tag g =>
      cases htag : Tag.parse tag with
      | error e => simp [leaf?, htag] at h
      | ok t =>
          cases hmapped : t.ignore with
          | true => simp [leaf?, htag, hmapped] at h
          | false =>
              rw [leaf?_field htag hmapped] at h
              split at h
              · cases h
              · obtain rfl := Option.some.inj h
                rfl

theorem Scope.column_eq_text (s : Scope) (qualifier member : String) (tag : Tag) :
    s.column qualifier member tag =
      LeafColumn.text
        { aliasName := if tag.useAlias then qualifier else ""
          name := tag.columnName member s.naming } := by
  rw [column, LeafColumn.text]
  cases tag.useAlias <;> by_cases hqualifier : qualifier = "" <;>
    simp [hqualifier, ToString.toString]

theorem Object.text_leafColumns (o : Object) (s : Scope) (qualifier : String) :
    (o.leafColumns s qualifier).map LeafColumn.text =
      ((o.walk s qualifier []).filterMap (Stop.leaf? s)).map MappedField.column := by
  rw [leafColumns, List.map_filterMap, List.map_filterMap]
  refine List.filterMap_congr fun p hp => ?_
  rw [Option.map_map]
  refine Option.map_congr fun f hf => ?_
  rw [Function.comp_apply, Stop.column_leaf? hf, Scope.column_eq_text,
    o.qualifier_of_mem_walk qualifier [] hp]

namespace Mapping

variable {naming : Naming} {o : Object} {m : Mapping}

theorem text_insertColumns (naming : Naming) (o : Object) :
    (o.insertColumns naming).map LeafColumn.text =
      (resolved { naming } .insert o).map MappedField.column :=
  o.text_leafColumns (.inserting naming) ""

theorem columns_of_parse_insert (h : parse { naming } .insert o = ⟨m, none⟩) :
    m.columns = ((o.insertColumns naming).map LeafColumn.text).eraseDups := by
  rw [columns_of_parse h, text_insertColumns]

end Mapping

/-! ## The column list of an insert -/

namespace Batch

variable {naming : Naming} {o : Object} {os : List Object} {b : Batch}

theorem columns_of_ofObject (h : ofObject naming o = .ok b) :
    ∃ m, Mapping.parse { naming } .insert o = ⟨m, none⟩ ∧ b.columns = m.columns := by
  obtain ⟨e, he, -, rfl⟩ := ofObject_eq_ok.mp h
  rw [Element.ofObject?] at he
  split at he
  · rename_i m hparse
    obtain rfl := Option.some.inj he
    exact ⟨m, hparse, rfl⟩
  · cases he

/-- The first object that can be inserted decides the columns. -/
theorem columns_of_ofObjects? (h : ofObjects? naming os = some b) :
    ∃ o m, os.find? (accepts naming) = some o ∧ Mapping.parse { naming } .insert o = ⟨m, none⟩ ∧
      b.columns = m.columns := by
  induction os with
  | nil => cases h
  | cons o os ih =>
      rw [ofObjects?] at h
      cases hb : ofObject naming o with
      | ok first =>
          have haccepts : accepts naming o = true := by
            simp [accepts, hb, Except.isOk, Except.toBool]
          obtain ⟨m, hparse, hcolumns⟩ := columns_of_ofObject hb
          rw [hb] at h
          obtain rfl := Option.some.inj h
          refine ⟨o, m, by simp [haccepts], hparse, ?_⟩
          rw [foldl_addObject, hcolumns]
      | error e =>
          have hrejects : accepts naming o = false := by
            simp [accepts, hb, Except.isOk, Except.toBool]
          rw [hb] at h
          rw [List.find?_cons, hrejects]
          exact ih h

end Batch

/-- An insert lists the columns of the first object that can be inserted, each once. None of them
is qualified just if no leaf has a point in its own name and none that is written with an alias lies
in an extension that has one. -/
theorem insert_unqualified_iff (q : Query) (naming : Naming) (p : Payload) (sql : Sql)
    (values : List Value) (hp : p.mapped ≠ []) (h : q.insertSql naming p = .ok (sql, values)) :
    ∃ o table columns rows,
      p.mapped.find? (Batch.accepts naming) = some o ∧
      sql = .word "insert into " :: .name table :: .word " (" :: Sql.columns columns ++
        .word ") values " :: Sql.groups rows columns.length ∧
      columns = ((o.insertColumns naming).map LeafColumn.text).eraseDups ∧
      ((∀ c ∈ columns, '.' ∉ c.toList) ↔
        ∀ c ∈ o.insertColumns naming, c.aliasName = "" ∧ '.' ∉ c.name.toList) := by
  obtain ⟨-, b, hb, table, -, -, rfl, rfl⟩ := Query.insertSql_eq_ok.mp h
  obtain ⟨o, m, ho, hparse, hcolumns⟩ :=
    Batch.columns_of_ofObjects? (Batch.ofObjects?_of_ofPayload hp hb)
  rw [Mapping.columns_of_parse_insert hparse] at hcolumns
  refine ⟨o, table, b.columns, b.rows.length, ho, b.sql_eq table, hcolumns, ?_⟩
  simp only [hcolumns, List.mem_eraseDups, List.forall_mem_map, LeafColumn.point_mem_text, not_or,
    not_not]

/-- An order with its customer, a joined table, and the address in one of the customer's members. -/
def addressedOrder : Object :=
  { label := "Order", typeName := "", table := "orders as o", primaryKey := "number"
    members := [
      .field "number" "col:number" (.scalar (.text "A1")),
      .field "customer" "extend:customers as c" (.nested
        { label := "Customer", typeName := "", table := "", primaryKey := "id"
          members := [
            .field "name" "col:name" (.scalar (.text "ann")),
            .field "address" "" (.nested
              { label := "Address", typeName := "", table := "", primaryKey := "id"
                members := [.field "city" "col:city" (.scalar (.text "oslo"))] })] }),
      .field "note" "col:note;use_alias:false" (.optional .text "String" none none)] }

/-- The insert of it; the order's own alias is dropped, the one of its customer is not. -/
def addressedInsert : Sql :=
  .word "insert into " :: .name "orders" :: .word " (" ::
    Sql.columns ["number", "c.name", "c.city", "note"] ++ .word ") values " :: Sql.groups 1 4

theorem insert_qualifies_addressedOrder :
    ∃ values, Payload.mapped (.object addressedOrder) ≠ [] ∧
      (Query.empty .mysql).insertSql .snake (.object addressedOrder) =
        .ok (addressedInsert, values) ∧
      ∃ columns, columns = ["number", "c.name", "c.city", "note"] ∧
        ((∀ c ∈ columns, '.' ∉ c.toList) ↔
          ∀ c ∈ addressedOrder.insertColumns .snake, c.aliasName = "" ∧ '.' ∉ c.name.toList) := by
  have htext : ((Query.empty .mysql).insertSql .snake (.object addressedOrder)).toOption.map
      Prod.fst = some addressedInsert := by decide +kernel
  obtain ⟨⟨sql, values⟩, hinsert, rfl⟩ := Option.map_eq_some_iff.mp htext
  have hinsert := Result.toOption_eq_some.mp hinsert
  have hmapped : Payload.mapped (.object addressedOrder) ≠ [] := by simp [Payload.mapped]
  obtain ⟨o, table, columns, rows, ho, -, hcolumns, hpoints⟩ :=
    insert_unqualified_iff (.empty .mysql) .snake (.object addressedOrder) _ _ hmapped hinsert
  obtain rfl : o = addressedOrder := by simpa [Payload.mapped] using List.mem_of_find?_eq_some ho
  refine ⟨values, hmapped, hinsert, columns, ?_, hpoints⟩
  rw [hcolumns]
  decide +kernel

end SqlMapping
