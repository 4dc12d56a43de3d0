import SqlMapping.Proofs.Query.Qualifying
import SqlMapping.Proofs.Quoting.Qualifier
import SqlMapping.Proofs.Session.Complete
import SqlMapping.Proofs.Session.Units

/-! # The tables a find refers to

A find selects from the table of its object alone, also when the query joins others. Its columns are
those of all leaves, with the aliases of the extensions they lie in, so that it can refer to a table
that it does not select from. -/

namespace SqlMapping

/-! ## Aliases of columns -/

namespace LeafColumn

deriving instance DecidableEq for LeafColumn

/-- The alias of a column is what stands before the first point of its text. -/
structure Legible (c : LeafColumn) : Prop where
  plain : Alias.Plain c.text
  aliasName : '.' ∉ c.aliasName.toList
  name : c.aliasName = "" → '.' ∉ c.name.toList

instance (c : LeafColumn) : Decidable c.Legible :=
  decidable_of_iff
    (Alias.Plain c.text ∧ '.' ∉ c.aliasName.toList ∧ (c.aliasName = "" → '.' ∉ c.name.toList))
    ⟨fun ⟨hplain, halias, hname⟩ => ⟨hplain, halias, hname⟩,
      fun h => ⟨h.plain, h.aliasName, h.name⟩⟩

def alias? (c : LeafColumn) : Option String :=
  if c.aliasName = "" then none else some c.aliasName

end LeafColumn

theorem Sql.splitQualifier_of_not_mem {name : String} (h : '.' ∉ name.toList) :
    splitQualifier name = none := by
  have hdrop : name.toList.dropWhile (· != '.') = [] := by
    rw [List.dropWhile_eq_nil_iff]
    intro c hc
    simpa using fun hpoint : c = '.' => h (hpoint ▸ hc)
  rw [splitQualifier, hdrop]

theorem Sql.splitQualifier_append {qualifier : String} (h : '.' ∉ qualifier.toList)
    (name : String) : splitQualifier (qualifier ++ "." ++ name) = some (qualifier, name) := by
  have hall : ∀ c ∈ qualifier.toList, (c != '.') = true := by
    intro c hc
    simpa using fun hpoint : c = '.' => h (hpoint ▸ hc)
  have htext : (qualifier ++ "." ++ name).toList = qualifier.toList ++ '.' :: name.toList := by
    simp
  rw [splitQualifier, htext, List.dropWhile_append_of_pos hall, List.takeWhile_append_of_pos hall]
  simp

theorem LeafColumn.Legible.qualifier?_text {c : LeafColumn} (h : c.Legible) :
    Sql.qualifier? c.text = c.alias? := by
  rw [Sql.qualifier?, Alias.split_fst_eq_iff.mpr h.plain, alias?, text]
  by_cases halias : c.aliasName = ""
  · rw [if_pos halias, if_pos halias, Sql.splitQualifier_of_not_mem (h.name halias)]
    rfl
  · rw [if_neg halias, if_neg halias, Sql.splitQualifier_append h.aliasName]
    rfl

/-! ## Columns of a find -/

namespace Mapping

variable {m m' : Mapping} {o filled : Object}

/-- The columns that a find names: those of the leaves of its object, and the key. -/
def named (m : Mapping) (o : Object) : List LeafColumn :=
  o.leafColumns (m.scope .select) m.table.aliasName ++ [⟨m.table.aliasName, m.primaryKey⟩]

theorem text_key (m : Mapping) :
    LeafColumn.text ⟨m.table.aliasName, m.primaryKey⟩ = m.qualifiedKey := by
  simp [LeafColumn.text, qualifiedKey]

theorem columns_of_parse_select (h : m.parse .select o = ⟨m', none⟩) :
    m'.columns =
      ((o.leafColumns (m'.scope .select) m'.table.aliasName).map LeafColumn.text).eraseDups := by
  rw [columns_of_parse h, resolved]
  obtain ⟨-, -, rfl⟩ := ((m.parse_iff_walk .select o).2 m').mp h
  exact congrArg List.eraseDups (o.text_leafColumns _ _).symm

/-- A column is listed or compared just if it is named. -/
theorem mem_columns_iff_named (h : m.parseSelect o = ⟨(m', filled), none⟩) {text : String} :
    text ∈ m'.columns ++ [m'.qualifiedKey] ↔ ∃ c ∈ m'.named filled, c.text = text := by
  rw [columns_of_parse_select (parseSelect_eq_ok.mp h).2, ← text_key]
  simp only [named, List.mem_append, List.mem_eraseDups, List.mem_map, List.mem_singleton,
    exists_or, or_and_right, exists_eq_left, eq_comm (a := text)]

end Mapping

/-! ## The text of a find -/

namespace Session

variable {s : Session} {id : Value} {o : Object} {sql : String} {values : List Value}

/-- A find compiles to the select of its object's table by the key. -/
theorem text_of_compiled_find (hcolumns : s.query.columns = [])
    (h : s.compiled (.find id o []) = some (.ok (sql, values))) :
    ∃ (m : Mapping) (filled : Object),
      (Mapping.setTable { naming := s.naming } s.query.table).parseSelect o =
        ⟨(m, filled), none⟩ ∧
      ∃ distinct, sql =
          (Sql.find distinct m.columns m.table m.qualifiedKey).render s.query.dialect ∧
        values = [id] := by
  obtain ⟨p, hplan, hcompiled⟩ := Result.bind_eq_ok.mp (Option.some.inj h)
  obtain ⟨rfl, rfl⟩ := Prod.mk.inj (Except.ok.inj hcompiled)
  rw [ofObject_of_planFor hplan] at hplan
  refine ⟨p.mapping, _, Plan.mapping_of_ofObject hplan, p.query.distinct, ?_, rfl⟩
  rw [Plan.columns_ofObject hcolumns hplan, Plan.dialect_ofObject hplan]

/-- A find names one table after `from` and joins none, whatever the query joins. Each of its
qualifiers is that of a column of the object or of the key. If these can be read back, all of them
refer to the table just if none is written with another alias, as one in an extension is. -/
theorem find_refers_iff (s : Session) (id : Value) (o : Object) (sql : String)
    (values : List Value) (hcolumns : s.query.columns = [])
    (h : s.compiled (.find id o []) = some (.ok (sql, values))) :
    ∃ (m : Mapping) (filled : Object) (ls : List Lexeme),
      (Mapping.setTable { naming := s.naming } s.query.table).parseSelect o =
        ⟨(m, filled), none⟩ ∧
      values = [id] ∧ lex s.query.dialect sql = some ls ∧
      Lexeme.sources ls = m.table.source?.toList ∧
      (∀ q, q ∈ Lexeme.qualifiers ls ↔
        ∃ c ∈ m.named filled, Sql.qualifier? c.text = some q) ∧
      ((∀ c ∈ m.named filled, c.Legible) →
        ((∀ q ∈ Lexeme.qualifiers ls, q ∈ Lexeme.sources ls) ↔
          ∀ c ∈ m.named filled, c.aliasName = "" ∨ m.table.source? = some c.aliasName)) := by
  obtain ⟨m, filled, hparse, distinct, rfl, rfl⟩ := text_of_compiled_find hcolumns h
  have hsources := Sql.sources_find distinct m.columns m.table m.qualifiedKey
  have hqualifiers : ∀ q,
      q ∈ Lexeme.qualifiers (Sql.find distinct m.columns m.table m.qualifiedKey).lexemes ↔
        ∃ c ∈ m.named filled, Sql.qualifier? c.text = some q := by
    intro q
    simp only [Sql.qualifiers_find, List.mem_filterMap, Mapping.mem_columns_iff_named hparse]
    constructor
    · rintro ⟨_, ⟨c, hc, rfl⟩, hq⟩
      exact ⟨c, hc, hq⟩
    · rintro ⟨c, hc, hq⟩
      exact ⟨_, ⟨c, hc, rfl⟩, hq⟩
  refine ⟨m, filled, _, hparse, rfl, (Outlined.find distinct _ _ _).reads.lex, hsources, hqualifiers,
    fun hlegible => ?_⟩
  rw [hsources]
  constructor
  · intro hrefers c hc
    by_cases halias : c.aliasName = ""
    · exact .inl halias
    · have hqualifier : Sql.qualifier? c.text = some c.aliasName := by
        rw [(hlegible c hc).qualifier?_text, LeafColumn.alias?, if_neg halias]
      exact .inr (Option.mem_toList.mp (hrefers _ ((hqualifiers _).mpr ⟨c, hc, hqualifier⟩)))
  · intro haliases q hq
    obtain ⟨c, hc, hqualifier⟩ := (hqualifiers q).mp hq
    rw [(hlegible c hc).qualifier?_text, LeafColumn.alias?] at hqualifier
    split at hqualifier
    · cases hqualifier
    · rename_i halias
      obtain rfl := Option.some.inj hqualifier
      exact Option.mem_toList.mpr ((haliases c hc).resolve_left halias)

/-- An order with its customer, to be loaded from a joined table. -/
def customerOrder : Object :=
  { label := "Order", typeName := "Order", table := "orders as o", primaryKey := "number"
    members := [
      .field "number" "col:number" (.scalar (.text "")),
      .field "customer" "extend:customers as c" (.nested
        { label := "Customer", typeName := "Customer", table := "", primaryKey := "id"
          members := [.field "name" "col:name" (.scalar (.text ""))] }),
      .field "note" "col:note;use_alias:false" (.scalar (.text ""))] }

/-- A session whose query joins the customers. -/
def joiningCustomers : Session :=
  { naming := .snake, sharesCache := false, sink := none
    query := (Query.empty .mysql).apply
      (.join .inner "customers as c" [.on .and "o.customer" "=" "c.id"]) }

def mappedCustomerOrder : Attempt (Mapping × Object) :=
  Mapping.parseSelect { naming := .snake } customerOrder

def customerOrderText : String :=
  "select \x60o\x60.\x60number\x60,\x60c\x60.\x60name\x60,\x60note\x60 " ++
    "from \x60orders\x60 as \x60o\x60 where \x60o\x60.\x60number\x60 = ?"

/-- It names the customers, but does not select from them. -/
theorem find_refers_customerOrder :
    joiningCustomers.query.columns = [] ∧ joiningCustomers.query.joins.length = 1 ∧
      joiningCustomers.compiled (.find (.text "A1") customerOrder []) =
        some (.ok (customerOrderText, [.text "A1"])) ∧
      ∃ ls, lex .mysql customerOrderText = some ls ∧ Lexeme.sources ls = ["o"] ∧
        "c" ∈ Lexeme.qualifiers ls ∧ ¬ ∀ q ∈ Lexeme.qualifiers ls, q ∈ Lexeme.sources ls := by
  have htext : ((joiningCustomers.compiled (.find (.text "A1") customerOrder [])).bind
      Except.toOption).map Prod.fst = some customerOrderText := by decide +kernel
  obtain ⟨⟨sql, values⟩, hsome, rfl⟩ := Option.map_eq_some_iff.mp htext
  obtain ⟨r, hr, hok⟩ := Option.bind_eq_some_iff.mp hsome
  obtain rfl := Result.toOption_eq_some.mp hok
  obtain ⟨m, filled, ls, hparse, rfl, hlex, hsources, hqualifiers, hrefers⟩ :=
    find_refers_iff joiningCustomers (.text "A1") customerOrder _ _ rfl hr
  have hstate : mappedCustomerOrder.state = (m, filled) := congrArg Attempt.state hparse
  have hc : ⟨"c", "name"⟩ ∈ mappedCustomerOrder.state.1.named mappedCustomerOrder.state.2 := by
    decide +kernel
  have hlegible : ∀ c ∈ mappedCustomerOrder.state.1.named mappedCustomerOrder.state.2,
      c.Legible := by decide +kernel
  have htable : mappedCustomerOrder.state.1.table.source? = some "o" := by decide +kernel
  rw [hstate] at hlegible hc htable
  refine ⟨rfl, rfl, hr, ls, hlex, ?_, ?_, ?_⟩
  · rw [hsources, htable]
    rfl
  · refine (hqualifiers "c").mpr ⟨_, hc, ?_⟩
    decide +kernel
  · intro hall
    have h := (hrefers hlegible).mp hall _ hc
    rw [htable] at h
    exact absurd h (by decide)

end Session

end SqlMapping
