import SqlMapping.Proofs.Quoting.Escaping
import SqlMapping.Proofs.Quoting.Lexeme
import SqlMapping.Proofs.Text.Pieces
import SqlMapping.Query.Compile

/-! # Outlines of statements

Outside of quoted identifiers, what is written for columns and tables depends on their shapes
alone: whether a column is qualified, a star or renamed, whether a table is named and renamed. -/

namespace SqlMapping

/-! ## Shapes -/

structure ColumnShape where
  qualified : Bool
  star : Bool
  renamed : Bool
  deriving DecidableEq

structure TableShape where
  named : Bool
  renamed : Bool
  deriving DecidableEq

/-- A text outside of its identifiers, each of which leaves a gap. -/
abbrev Outline := List (Option Char)

/-- The outline of wording. -/
def Outline.word (text : String) : Outline :=
  text.toList.map some

/-- The shape of a column: its alias is split off, then the part before its first point. -/
def ColumnShape.ofText (text : String) : ColumnShape :=
  let (name, aliasName) := Alias.split text
  match Sql.splitQualifier name with
  | some (_, column) => ⟨true, column = "*", !aliasName.isEmpty⟩
  | none => ⟨false, name = "*", !aliasName.isEmpty⟩

def ColumnShape.outline (s : ColumnShape) : Outline :=
  (if s.qualified then [none, some '.'] else []) ++ [if s.star then some '*' else none] ++
    if s.renamed then Outline.word " as " ++ [none] else []

def ColumnShape.outlines : List ColumnShape → Outline
  | [] => []
  | s :: ss => s.outline ++ ss.flatMap (some ',' :: ·.outline)

def TableShape.ofTable (t : TableRef) : TableShape :=
  ⟨!t.name.isEmpty, !t.aliasName.isEmpty⟩

def TableShape.outline (s : TableShape) : Outline :=
  if s.named then none :: if s.renamed then Outline.word " as " ++ [none] else [] else []

def columnNames (text : String) : List String :=
  let (name, aliasName) := Alias.split text
  let body := match Sql.splitQualifier name with
    | some (table, column) => table :: if column = "*" then [] else [column]
    | none => if name = "*" then [] else [name]
  body ++ if aliasName.isEmpty then [] else [aliasName]

def tableNames (t : TableRef) : List String :=
  if t.name.isEmpty then [] else t.name :: if t.aliasName.isEmpty then [] else [t.aliasName]

/-! ## What is written for columns and tables -/

/-- A text written from names that a caller gives. -/
inductive Fragment where
  | identifier (name : String)
  | columns (texts : List String)
  | table (t : TableRef)
  | selection (distinct : Bool) (texts : List String)
  | source (t : TableRef)
  | order (texts : List String) (direction : Direction)
  | find (distinct : Bool) (texts : List String) (t : TableRef) (primaryKey : String)

/-- A fragment without its names. -/
inductive Fragment.Shape where
  | identifier
  | columns (ss : List ColumnShape)
  | table (t : TableShape)
  | selection (distinct : Bool) (ss : List ColumnShape)
  | source (t : TableShape)
  | order (ss : List ColumnShape) (direction : Direction)
  | find (distinct : Bool) (ss : List ColumnShape) (t : TableShape) (primaryKey : ColumnShape)

namespace Fragment

def sql : Fragment → Sql
  | identifier name => [.name name]
  | columns texts => Sql.columns texts
  | table t => Sql.tableRef t
  | selection distinct texts => Sql.selection distinct texts
  | source t => Sql.source t
  | order texts direction => Sql.order texts direction
  | find distinct texts t primaryKey => Sql.find distinct texts t primaryKey

def names : Fragment → List String
  | identifier name => [name]
  | columns texts | selection _ texts | order texts _ => texts.flatMap columnNames
  | table t | source t => tableNames t
  | find _ texts t primaryKey =>
    texts.flatMap columnNames ++ tableNames t ++ columnNames primaryKey

def shape : Fragment → Shape
  | identifier _ => .identifier
  | columns texts => .columns (texts.map ColumnShape.ofText)
  | table t => .table (.ofTable t)
  | selection distinct texts => .selection distinct (texts.map ColumnShape.ofText)
  | source t => .source (.ofTable t)
  | order texts direction => .order (texts.map ColumnShape.ofText) direction
  | find distinct texts t primaryKey =>
    .find distinct (texts.map ColumnShape.ofText) (.ofTable t) (.ofText primaryKey)

/-- The outline of a select's columns, a star when there are none. -/
def Shape.selected (distinct : Bool) (ss : List ColumnShape) : Outline :=
  Outline.word (if distinct then "select distinct " else "select ") ++
    if ss.isEmpty then [some '*'] else ColumnShape.outlines ss

def Shape.outline : Shape → Outline
  | identifier => [none]
  | columns ss => ColumnShape.outlines ss
  | table t => t.outline
  | selection distinct ss => selected distinct ss
  | source t => Outline.word "from " ++ t.outline
  | order ss direction =>
    if ss.isEmpty then []
    else Outline.word "order by " ++ ColumnShape.outlines ss ++
      Outline.word (" " ++ direction.word)
  | find distinct ss t primaryKey =>
    selected distinct ss ++ Outline.word " from " ++ t.outline ++ Outline.word " where " ++
      primaryKey.outline ++ Outline.word " = ?"

end Fragment

def Lexeme.name? : Lexeme → Option String
  | identifier name => some name
  | plain _ => none

def Lexeme.outline : Lexeme → Option Char
  | identifier _ => none
  | plain c => some c

@[simp] theorem Lexeme.name?_plain (c : Char) : (plain c).name? = none := rfl

@[simp] theorem Lexeme.outline_plain (c : Char) : (plain c).outline = some c := rfl

/-! ## Reading what is written -/

theorem Sql.column_ne_nil (text : String) : Sql.column text ≠ [] := by
  simp only [Sql.column]
  split <;> simp

theorem Sql.columns_cons (text : String) (texts : List String) :
    Sql.columns (text :: texts) =
      Sql.column text ++ texts.flatMap fun text => .word "," :: Sql.column text := by
  have hfilter : (texts.map Sql.column).filter (!·.isEmpty) = texts.map Sql.column := by
    rw [List.filter_eq_self]
    intro s hs
    obtain ⟨text, -, rfl⟩ := List.mem_map.mp hs
    simp [column_ne_nil]
  rw [Sql.columns, List.map_cons, Text.joinPieces_cons (column_ne_nil text), hfilter,
    List.flatMap_map]
  rfl

theorem Sql.selection_cons (distinct : Bool) (text : String) (texts : List String) :
    Sql.selection distinct (text :: texts) =
      .word (if distinct then "select distinct " else "select ") ::
        Sql.columns (text :: texts) := by
  rw [Sql.selection, List.isEmpty_cons, if_neg Bool.false_ne_true]

/-- A part of a statement reads as some identifiers within an outline. -/
structure Outlined (d : Dialect) (s : Sql) (names : List String) (outline : Outline) : Prop where
  reads : s.Reads d
  names : s.lexemes.filterMap Lexeme.name? = names
  outline : s.lexemes.map Lexeme.outline = outline

namespace Outlined

variable {d : Dialect} {s t : Sql} {ns ms : List String} {o u : Outline}

theorem nil : Outlined d [] [] [] where
  reads := .nil
  names := rfl
  outline := rfl

theorem name (text : String) : Outlined d [.name text] [text] [none] where
  reads := .name text
  names := rfl
  outline := rfl

theorem word_cons {text : String} (h : d.quote ∉ text.toList) (ht : Outlined d t ns o) :
    Outlined d (.word text :: t) ns (Outline.word text ++ o) where
  reads := .word_cons h ht.reads
  names := by simp [Token.lexemes, ht.names]
  outline := by simp [Token.lexemes, Outline.word, Function.comp_def, ht.outline]

theorem around {text : String} (hs : Outlined d s ns o) (ht : Outlined d t ms u)
    (hquote : d.quote ∉ text.toList) (hne : text.toList ≠ []) :
    Outlined d (s ++ .word text :: t) (ns ++ ms) (o ++ (Outline.word text ++ u)) where
  reads := .around hs.reads ht.reads hquote hne
  names := by
    have hword := (word_cons hquote ht).names
    rw [Sql.lexemes_append, List.filterMap_append, hs.names, hword]
  outline := by
    have hword := (word_cons hquote ht).outline
    rw [Sql.lexemes_append, List.map_append, hs.outline, hword]

theorem columnName (name : String) :
    Outlined d [Sql.columnName name] (if name = "*" then [] else [name])
      [if name = "*" then some '*' else none] := by
  unfold Sql.columnName
  split
  · have hquote : d.quote ∉ "*".toList := by cases d <;> decide
    exact word_cons hquote nil
  · exact Outlined.name name

theorem mark : Outlined d [.mark] [] [some '?'] where
  reads := .mark
  names := rfl
  outline := rfl

/-- An alias is written apart from what it renames. -/
theorem renamed (hs : Outlined d s ns o) (aliasName : String) :
    Outlined d (s ++ if aliasName.isEmpty then [] else [.word " as ", .name aliasName])
      (ns ++ if aliasName.isEmpty then [] else [aliasName])
      (o ++ if !aliasName.isEmpty then Outline.word " as " ++ [none] else []) := by
  have hquote : d.quote ∉ " as ".toList := by cases d <;> decide
  cases h : aliasName.isEmpty with
  | true => simpa [h] using hs
  | false => simpa [h] using hs.around (name aliasName) hquote (by decide)

theorem column (text : String) :
    Outlined d (Sql.column text) (columnNames text) (ColumnShape.ofText text).outline := by
  simp only [Sql.column, columnNames, ColumnShape.ofText]
  cases h : Sql.splitQualifier (Alias.split text).1 with
  | none => simpa [ColumnShape.outline] using renamed (columnName _) (Alias.split text).2
  | some parts =>
      obtain ⟨table, column⟩ := parts
      have hquote : d.quote ∉ ".".toList := by cases d <;> decide
      have hbody := (name (d := d) table).around (columnName column) hquote (by decide)
      simpa [ColumnShape.outline, Outline.word] using renamed hbody (Alias.split text).2

theorem columns_append (hs : Outlined d s ns o) (texts : List String) :
    Outlined d (s ++ texts.flatMap fun text => .word "," :: Sql.column text)
      (ns ++ texts.flatMap columnNames)
      (o ++ (texts.map ColumnShape.ofText).flatMap (some ',' :: ·.outline)) := by
  have hquote : d.quote ∉ ",".toList := by cases d <;> decide
  induction texts generalizing s ns o with
  | nil => simpa using hs
  | cons text texts ih =>
      have hnext := hs.around (column text) hquote (by decide)
      simpa [Outline.word] using ih hnext

theorem columns (texts : List String) :
    Outlined d (Sql.columns texts) (texts.flatMap columnNames)
      (ColumnShape.outlines (texts.map ColumnShape.ofText)) := by
  cases texts with
  | nil => exact nil
  | cons text texts =>
      rw [Sql.columns_cons]
      exact (column text).columns_append texts

theorem tableRef (t : TableRef) :
    Outlined d (Sql.tableRef t) (tableNames t) (TableShape.ofTable t).outline := by
  unfold Sql.tableRef tableNames
  split
  · rename_i hname
    simpa [TableShape.ofTable, TableShape.outline, hname] using nil
  · rename_i hname
    have hrenamed := renamed (name (d := d) t.name) t.aliasName
    simpa [TableShape.ofTable, TableShape.outline, hname, Sql.table] using hrenamed

theorem selection (distinct : Bool) (texts : List String) :
    Outlined d (Sql.selection distinct texts) (texts.flatMap columnNames)
      (Fragment.Shape.selected distinct (texts.map ColumnShape.ofText)) := by
  have hquote : d.quote ∉ (if distinct then "select distinct " else "select ").toList := by
    cases d <;> cases distinct <;> decide
  cases texts with
  | nil =>
      have hstar : d.quote ∉ "*".toList := by cases d <;> decide
      exact word_cons hquote (word_cons hstar nil)
  | cons text texts =>
      have h := word_cons hquote (columns (text :: texts))
      rw [Sql.selection_cons]
      simpa only [Fragment.Shape.selected, List.map_cons, List.isEmpty_cons, Bool.false_eq_true,
        if_false] using h

theorem order (texts : List String) (direction : Direction) :
    Outlined d (Sql.order texts direction) (texts.flatMap columnNames)
      (Fragment.Shape.outline (.order (texts.map ColumnShape.ofText) direction)) := by
  unfold Sql.order
  cases texts with
  | nil => exact nil
  | cons text texts =>
      have horder : d.quote ∉ "order by ".toList := by cases d <;> decide
      have hdirection : d.quote ∉ (" " ++ direction.word).toList := by
        cases d <;> cases direction <;> decide
      have hne : (" " ++ direction.word).toList ≠ [] := by cases direction <;> decide
      have h := word_cons horder ((columns (text :: texts)).around nil hdirection hne)
      simpa [Fragment.Shape.outline] using h

theorem find (distinct : Bool) (texts : List String) (t : TableRef) (primaryKey : String) :
    Outlined d (Sql.find distinct texts t primaryKey)
      (Fragment.names (.find distinct texts t primaryKey))
      (Fragment.shape (.find distinct texts t primaryKey)).outline := by
  have hfrom : d.quote ∉ " from ".toList := by cases d <;> decide
  have hwhere : d.quote ∉ " where ".toList := by cases d <;> decide
  have hequal : d.quote ∉ " = ".toList := by cases d <;> decide
  have h := (((selection (d := d) distinct texts).around (tableRef t) hfrom (by decide)).around
    (column primaryKey) hwhere (by decide)).around mark hequal (by decide)
  have hword : Outline.word " = ?" = Outline.word " = " ++ [some '?'] := rfl
  simpa [Sql.find, Fragment.names, Fragment.shape, Fragment.Shape.outline, hword] using h

/-- Every fragment reads as its names within the outline of its shape. -/
theorem fragment (f : Fragment) : Outlined d f.sql f.names f.shape.outline := by
  cases f with
  | identifier text => exact name text
  | columns texts => exact columns texts
  | table t => exact tableRef t
  | selection distinct texts => exact selection distinct texts
  | source t =>
      have hquote : d.quote ∉ "from ".toList := by cases d <;> decide
      exact word_cons hquote (tableRef t)
  | order texts direction => exact order texts direction
  | find distinct texts t primaryKey => exact find distinct texts t primaryKey

end Outlined

/-- The text of a fragment outside of its quoted identifiers. -/
def Fragment.outline? (d : Dialect) (f : Fragment) : Option Outline :=
  (lex d (f.sql.render d)).map (·.map Lexeme.outline)

/-- No name escapes from its quotes: the bytes written for it read as this name, and what is
written for columns and tables reads as their names in the places that their shapes call for. -/
theorem fragments_read_as_shaped (d : Dialect) :
    (∀ name, d.quotedBytes name = Text.Utf8.encode (String.ofList (d.quoted name)) ∧
      lex d (String.ofList (d.quoted name)) = some [.identifier name]) ∧
    (∀ f : Fragment, ∃ ls, lex d (f.sql.render d) = some ls ∧
      ls.filterMap Lexeme.name? = f.names ∧ ls.map Lexeme.outline = f.shape.outline) ∧
    ∀ f g : Fragment, f.shape = g.shape → f.outline? d = g.outline? d := by
  have hread : ∀ f : Fragment, f.outline? d = some f.shape.outline := by
    intro f
    have h := Outlined.fragment (d := d) f
    rw [Fragment.outline?, h.reads.lex, Option.map_some, h.outline]
  refine ⟨fun name => ⟨d.quotedBytes_eq name, lex_quoted d name⟩, fun f => ?_,
    fun f g hshape => ?_⟩
  · have h := Outlined.fragment (d := d) f
    exact ⟨_, h.reads.lex, h.names, h.outline⟩
  · rw [hread f, hread g, hshape]

end SqlMapping
