import SqlMapping.Proofs.Alias
import SqlMapping.Proofs.Quoting.Outline

/-! # Qualifiers and sources

In the text of a statement a name before a point qualifies a column. It refers to a table that the
statement names after `from` or `join`, by the alias of that table if it has one. -/

namespace SqlMapping

namespace Lexeme

/-- The lexemes of wording. -/
def word (text : String) : List Lexeme :=
  text.toList.map plain

/-- The names that a point follows. -/
def qualifiers : List Lexeme → List String
  | [] => []
  | plain _ :: ls => qualifiers ls
  | identifier name :: ls =>
    (if ls.head? = some (plain '.') then [name] else []) ++ qualifiers ls

/-- What a table that is named first is referred to by. -/
def source? : List Lexeme → Option String
  | identifier _ :: plain ' ' :: plain 'a' :: plain 's' :: plain ' ' :: identifier aliasName :: _ =>
    some aliasName
  | identifier name :: _ => some name
  | _ => none

/-- What the tables named after `from` and `join` are referred to by. -/
def sources : List Lexeme → List String
  | [] => []
  | l :: ls =>
    (if word "from " <+: l :: ls ∨ word "join " <+: l :: ls then (source? (ls.drop 4)).toList
      else []) ++ sources ls

/-- A character that may be the first of `from` or `join`. -/
def Starts (l : Lexeme) : Prop :=
  l = plain 'f' ∨ l = plain 'j'

instance (l : Lexeme) : Decidable l.Starts :=
  inferInstanceAs (Decidable (_ ∨ _))

variable {ls ms : List Lexeme}

theorem qualifiers_append (h : ms.head? ≠ some (plain '.')) :
    qualifiers (ls ++ ms) = qualifiers ls ++ qualifiers ms := by
  induction ls with
  | nil => rfl
  | cons l ls ih =>
      cases l with
      | plain c => exact ih
      | identifier name =>
          have hhead : (ls ++ ms).head? = some (plain '.') ↔ ls.head? = some (plain '.') := by
            cases ls with
            | nil => simpa using h
            | cons l ls => simp
          rw [List.cons_append, qualifiers, qualifiers, ih, List.append_assoc]
          simp only [hhead]

@[simp] theorem qualifiers_word_append (text : String) :
    qualifiers (word text ++ ms) = qualifiers ms := by
  rw [word]
  induction text.toList with
  | nil => rfl
  | cons c cs ih => exact ih

theorem sources_cons_of_not_starts {l : Lexeme} (h : ¬ l.Starts) :
    sources (l :: ls) = sources ls := by
  have hfrom : ¬ word "from " <+: l :: ls := by
    intro hprefix
    exact h (.inl (List.cons_prefix_cons.mp hprefix).1.symm)
  have hjoin : ¬ word "join " <+: l :: ls := by
    intro hprefix
    exact h (.inr (List.cons_prefix_cons.mp hprefix).1.symm)
  simp [sources, hfrom, hjoin]

theorem sources_append_of_not_starts (h : ∀ l ∈ ls, ¬ l.Starts) :
    sources (ls ++ ms) = sources ms := by
  induction ls with
  | nil => rfl
  | cons l ls ih =>
      rw [List.forall_mem_cons] at h
      rw [List.cons_append, sources_cons_of_not_starts h.1, ih h.2]

theorem sources_from :
    sources (word "from " ++ ms) = (source? ms).toList ++ sources (word "rom " ++ ms) := by
  have hprefix : word "from " <+: word "from " ++ ms := List.prefix_append _ _
  have hcons : word "from " ++ ms = plain 'f' :: (word "rom " ++ ms) := rfl
  have hdrop : (word "rom " ++ ms).drop 4 = ms := rfl
  rw [hcons] at hprefix ⊢
  rw [sources, if_pos (.inl hprefix), hdrop]

end Lexeme

/-- What a table is referred to by, if it is named. -/
def TableRef.source? (t : TableRef) : Option String :=
  if t.name = "" then none else some t.fullName

@[simp] theorem Token.lexemes_word (text : String) : (word text).lexemes = Lexeme.word text := rfl

@[simp] theorem Token.lexemes_name (name : String) : (Token.name name).lexemes = [.identifier name] :=
  rfl

namespace Sql

open Lexeme

/-- The part of a column's name before its first point, its alias aside. -/
def qualifier? (text : String) : Option String :=
  (splitQualifier (Alias.split text).1).map Prod.fst

/-! ## Columns -/

/-- What follows the qualifier of a column. -/
theorem qualifiers_columnName (name aliasName : String) :
    qualifiers (lexemes (columnName name ::
      if aliasName.isEmpty then [] else [.word " as ", .name aliasName])) = [] := by
  unfold columnName
  split <;> split <;> rfl

theorem qualifiers_column (text : String) :
    qualifiers (lexemes (column text)) = (qualifier? text).toList := by
  simp only [column, qualifier?]
  cases splitQualifier (Alias.split text).1 with
  | none => exact qualifiers_columnName _ _
  | some parts =>
      have hrest := qualifiers_columnName parts.2 (Alias.split text).2
      have hcons : ∀ rest, qualifiers (lexemes (.name parts.1 :: .word "." :: rest)) =
          parts.1 :: qualifiers (lexemes rest) := fun _ => rfl
      exact (hcons _).trans (congrArg (parts.1 :: ·) hrest)

theorem head?_listed (texts : List String) :
    (lexemes (texts.flatMap fun text => .word "," :: column text)).head? ≠ some (plain '.') := by
  cases texts <;> simp [Lexeme.word]

theorem qualifiers_listed (texts : List String) :
    qualifiers (lexemes (texts.flatMap fun text => .word "," :: column text)) =
      texts.filterMap qualifier? := by
  induction texts with
  | nil => rfl
  | cons text texts ih =>
      rw [List.flatMap_cons, List.cons_append, lexemes_cons, Token.lexemes_word,
        qualifiers_word_append, lexemes_append, qualifiers_append (head?_listed texts), ih,
        qualifiers_column]
      cases hq : qualifier? text <;> simp [hq]

theorem qualifiers_columns (texts : List String) :
    qualifiers (lexemes (columns texts)) = texts.filterMap qualifier? := by
  cases texts with
  | nil => rfl
  | cons text texts =>
      rw [columns_cons, lexemes_append, qualifiers_append (head?_listed texts), qualifiers_listed,
        qualifiers_column]
      cases hq : qualifier? text <;> simp [hq]

theorem qualifiers_selection (distinct : Bool) (texts : List String) :
    qualifiers (lexemes (selection distinct texts)) = texts.filterMap qualifier? := by
  cases texts with
  | nil =>
      rw [selection, lexemes_cons, Token.lexemes_word, qualifiers_word_append]
      rfl
  | cons text texts =>
      rw [selection_cons, lexemes_cons, Token.lexemes_word, qualifiers_word_append,
        qualifiers_columns]

/-! ## Tables -/

theorem qualifiers_tableRef (t : TableRef) : qualifiers (lexemes (tableRef t)) = [] := by
  rw [tableRef]
  split
  · rfl
  · cases t.aliasName.isEmpty <;> rfl

theorem source?_tableRef (t : TableRef) (ls : List Lexeme) :
    source? (lexemes (tableRef t) ++ (Lexeme.word " where " ++ ls)) = t.source? := by
  rw [tableRef, TableRef.source?, TableRef.fullName]
  by_cases hname : t.name = ""
  · simp [hname, Lexeme.word, Lexeme.source?]
  · by_cases halias : t.aliasName = "" <;>
      simp [hname, halias, table, Lexeme.word, Lexeme.source?]

/-! ## Keywords -/

/-- Whether a keyword may start in a text is seen from its outline. -/
theorem not_starts_of_outlined {d : Dialect} {s : Sql} {names : List String} {o : Outline}
    (h : Outlined d s names o) (ho : ∀ c ∈ o, c ≠ some 'f' ∧ c ≠ some 'j') :
    ∀ l ∈ lexemes s, ¬ l.Starts := by
  intro l hl hstarts
  obtain ⟨hf, hj⟩ := ho l.outline (h.outline ▸ List.mem_map_of_mem hl)
  rcases hstarts with rfl | rfl
  · exact hf rfl
  · exact hj rfl

theorem not_starts_column (text : String) : ∀ l ∈ lexemes (column text), ¬ l.Starts := by
  refine not_starts_of_outlined (Outlined.column (d := .generic) text) ?_
  obtain ⟨qualified, star, renamed⟩ := ColumnShape.ofText text
  cases qualified <;> cases star <;> cases renamed <;> decide

theorem not_starts_tableRef (t : TableRef) : ∀ l ∈ lexemes (tableRef t), ¬ l.Starts := by
  refine not_starts_of_outlined (Outlined.tableRef (d := .generic) t) ?_
  obtain ⟨named, renamed⟩ := TableShape.ofTable t
  cases named <;> cases renamed <;> decide

theorem not_starts_columns (texts : List String) :
    ∀ l ∈ lexemes (columns texts), ¬ l.Starts := by
  refine Text.joinPieces_induction (P := fun s => ∀ l ∈ lexemes s, ¬ l.Starts) nofun ?_
    (by decide) ?_
  · intro s t hs ht
    rw [lexemes_append, List.forall_mem_append]
    exact ⟨hs, ht⟩
  · intro s hs
    obtain ⟨text, -, rfl⟩ := List.mem_map.mp hs
    exact not_starts_column text

theorem not_starts_selection (distinct : Bool) (texts : List String) :
    ∀ l ∈ lexemes (selection distinct texts), ¬ l.Starts := by
  cases texts with
  | nil => cases distinct <;> decide
  | cons text texts =>
      rw [selection_cons, lexemes_cons, Token.lexemes_word, List.forall_mem_append]
      refine ⟨?_, not_starts_columns _⟩
      cases distinct <;> decide

/-! ## The select by a key -/

variable (distinct : Bool) (texts : List String) (t : TableRef) (key : String)

theorem lexemes_find :
    lexemes (find distinct texts t key) =
      lexemes (selection distinct texts) ++ (Lexeme.word " from " ++ (lexemes (tableRef t) ++
        (Lexeme.word " where " ++ (lexemes (column key) ++ Lexeme.word " = ?")))) := by
  simp [find, Token.lexemes, Lexeme.word]

/-- Its columns and its key are qualified as they are written. -/
theorem qualifiers_find :
    qualifiers (lexemes (find distinct texts t key)) = (texts ++ [key]).filterMap qualifier? := by
  have hword : ∀ ms, (Lexeme.word " where " ++ ms).head? ≠ some (plain '.') := fun _ => by
    simp [Lexeme.word]
  have hend : (Lexeme.word " = ?").head? ≠ some (plain '.') := by decide
  have hfrom : ∀ ms, (Lexeme.word " from " ++ ms).head? ≠ some (plain '.') := fun _ => by
    simp [Lexeme.word]
  rw [lexemes_find, qualifiers_append (hfrom _), qualifiers_word_append,
    qualifiers_append (hword _), qualifiers_word_append, qualifiers_append hend,
    qualifiers_selection, qualifiers_tableRef, qualifiers_column, List.filterMap_append]
  have hequals : qualifiers (Lexeme.word " = ?") = [] := rfl
  cases hq : qualifier? key <;> simp [hequals, hq]

/-- It has one source, its table. -/
theorem sources_find : sources (lexemes (find distinct texts t key)) = t.source?.toList := by
  have hblank : sources (Lexeme.word " from " ++ (lexemes (tableRef t) ++
      (Lexeme.word " where " ++ (lexemes (column key) ++ Lexeme.word " = ?")))) =
        sources (Lexeme.word "from " ++ (lexemes (tableRef t) ++
          (Lexeme.word " where " ++ (lexemes (column key) ++ Lexeme.word " = ?")))) :=
    sources_cons_of_not_starts (by decide)
  rw [lexemes_find, sources_append_of_not_starts (not_starts_selection distinct texts), hblank,
    sources_from, source?_tableRef, sources_append_of_not_starts (by decide),
    sources_append_of_not_starts (not_starts_tableRef t),
    sources_append_of_not_starts (by decide), sources_append_of_not_starts (not_starts_column key)]
  have hequals : sources (Lexeme.word " = ?") = [] := by decide
  rw [hequals, List.append_nil]

/-- A joined table is a source as well, under its own name if it has no alias. -/
example :
    (lex .mysql ("select * from \x60users\x60 as \x60u\x60 " ++
      "inner join \x60posts\x60 on (\x60u\x60.\x60id\x60 = \x60owner\x60)")).map sources =
        some ["u", "posts"] := by
  decide +kernel

end Sql

end SqlMapping
