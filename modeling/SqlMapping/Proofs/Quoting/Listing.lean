import SqlMapping.Proofs.Quoting.Outline

/-! # The columns that a select lists

In the text of a select the columns stand before `from`, with commas between them. Commas and words
within quotes do not count, so that the columns can be read back from the text alone. -/

namespace SqlMapping

/-- The pieces between commas, up to an `f` and the blank before it. Nothing counts that is quoted;
`piece` is what was read of the first one. -/
def columnsFrom (quote : Char) : Bool → List Char → List Char → List (List Char)
  | _, piece, [] => [piece]
  | quoted, piece, c :: cs =>
    if c = quote then columnsFrom quote (!quoted) (piece ++ [c]) cs
    else if quoted then columnsFrom quote true (piece ++ [c]) cs
    else if c = ',' then piece :: columnsFrom quote false [] cs
    else if c = 'f' then [piece.dropLast]
    else columnsFrom quote false (piece ++ [c]) cs

/-- A text without the word it starts with, if it does. -/
def withoutWord (word text : List Char) : List Char :=
  if word <+: text then text.drop word.length else text

namespace Dialect

/-- The columns that the text of a select lists. -/
def listed (d : Dialect) (text : String) : List String :=
  let body := withoutWord "distinct ".toList (withoutWord "select ".toList text.toList)
  (columnsFrom d.quote false [] body).map String.ofList

/-- What is written for columns, a star when there are none. -/
def listing (d : Dialect) (columns : List String) : List String :=
  if columns.isEmpty then ["*"] else columns.map fun column => (Sql.column column).render d

end Dialect

/-! ## What is read in one piece -/

/-- A text within which no piece ends. -/
def InOnePiece (quote : Char) (cs : List Char) : Prop :=
  ∀ piece rest,
    columnsFrom quote false piece (cs ++ rest) = columnsFrom quote false (piece ++ cs) rest

namespace InOnePiece

variable {q : Char} {cs ds : List Char} {d : Dialect}

theorem nil : InOnePiece q [] := by
  intro piece rest
  simp

theorem append (hc : InOnePiece q cs) (hd : InOnePiece q ds) : InOnePiece q (cs ++ ds) := by
  intro piece rest
  rw [List.append_assoc, hc, hd, List.append_assoc]

theorem plain (hquote : q ∉ cs) (hcomma : ',' ∉ cs) (hf : 'f' ∉ cs) : InOnePiece q cs := by
  induction cs with
  | nil => exact nil
  | cons c cs ih =>
      rw [List.mem_cons, not_or] at hquote hcomma hf
      intro piece rest
      simp only [List.cons_append, columnsFrom, Ne.symm hquote.1, Ne.symm hcomma.1, Ne.symm hf.1,
        if_false]
      rw [ih hquote.2 hcomma.2 hf.2, List.append_assoc]
      rfl

/-- Wording without a comma, an `f` and the quotes of all dialects. -/
theorem word {text : String} (h : text.toList.all (· ∉ [',', 'f', '"', '\x60']) = true) :
    InOnePiece d.quote text.toList := by
  have hnot : ∀ c ∈ [',', 'f', '"', '\x60'], c ∉ text.toList := by
    intro c hc hmem
    exact of_decide_eq_true (List.all_eq_true.mp h c hmem) hc
  refine plain (hnot _ ?_) (hnot _ (by decide)) (hnot _ (by decide))
  cases d <;> decide

/-- A quote that is written twice begins a new quotation. -/
theorem columnsFrom_replaced (piece rest : List Char) :
    columnsFrom q true piece (Dialect.replaced q [q, q] cs ++ rest) =
      columnsFrom q true (piece ++ Dialect.replaced q [q, q] cs) rest := by
  induction cs generalizing piece with
  | nil => simp [Dialect.replaced]
  | cons c cs ih =>
      have hcons : Dialect.replaced q [q, q] (c :: cs) =
          (if c = q then [q, q] else [c]) ++ Dialect.replaced q [q, q] cs := rfl
      rw [hcons, List.append_assoc, ← List.append_assoc piece]
      by_cases hc : c = q
      · simp [hc, columnsFrom, ih]
      · simp [hc, columnsFrom, ih]

theorem quoted (name : String) : InOnePiece d.quote (d.quoted name) := by
  intro piece rest
  have hquoted : d.quoted name ++ rest =
      d.quote :: (Dialect.replaced d.quote [d.quote, d.quote] name.toList ++ d.quote :: rest) := by
    simp [Dialect.quoted]
  rw [hquoted]
  simp [columnsFrom, columnsFrom_replaced, Dialect.quoted]

theorem chars {s : Sql} (h : ∀ t ∈ s, InOnePiece d.quote (t.text d)) :
    InOnePiece d.quote (s.chars d) := by
  induction s with
  | nil => exact nil
  | cons t s ih =>
      rw [List.forall_mem_cons] at h
      exact h.1.append (ih h.2)

theorem columnName (name : String) : InOnePiece d.quote ((Sql.columnName name).text d) := by
  rw [Sql.columnName]
  split
  · exact word (by decide)
  · exact quoted name

theorem column (text : String) : InOnePiece d.quote ((Sql.column text).chars d) := by
  have hpoint : InOnePiece d.quote ((Token.word ".").text d) := word (by decide)
  have has : InOnePiece d.quote ((Token.word " as ").text d) := word (by decide)
  have hname : ∀ name, InOnePiece d.quote ((Token.name name).text d) := quoted
  refine chars ?_
  simp only [Sql.column, List.forall_mem_append]
  constructor
  · split <;> simp [hname, hpoint, columnName]
  · split <;> simp [hname, has]

end InOnePiece

/-! ## Reading a select -/

theorem withoutWord_append (word text : List Char) : withoutWord word (word ++ text) = text := by
  simp [withoutWord]

theorem withoutWord_of_head? {c : Char} {word text : List Char} (h : text.head? ≠ some c) :
    withoutWord (c :: word) text = text := by
  have hnot : ¬ c :: word <+: text := by
    rintro ⟨rest, rfl⟩
    exact h rfl
  simp [withoutWord, hnot]

namespace Sql

variable {d : Dialect}

theorem columnsFrom_from (piece rest : List Char) :
    columnsFrom d.quote false piece (" from ".toList ++ rest) = [piece] := by
  have hquote : ' ' ≠ d.quote ∧ 'f' ≠ d.quote := by cases d <;> decide
  simp [columnsFrom, hquote]

theorem columnsFrom_listed (piece : List Char) (texts : List String) (rest : List Char) :
    columnsFrom d.quote false piece
        (chars d (texts.flatMap fun text => .word "," :: column text) ++
          (" from ".toList ++ rest)) =
      piece :: texts.map fun text => (column text).chars d := by
  have hcomma : ',' ≠ d.quote := by cases d <;> decide
  induction texts generalizing piece with
  | nil => exact columnsFrom_from piece rest
  | cons text texts ih =>
      have hcons : chars d ((text :: texts).flatMap fun text => .word "," :: column text) =
          ',' :: ((column text).chars d ++
            chars d (texts.flatMap fun text => .word "," :: column text)) := by
        simp [chars, Token.text]
      rw [hcons, List.cons_append, List.append_assoc, columnsFrom]
      simp only [hcomma, if_false, if_true, Bool.false_eq_true]
      rw [InOnePiece.column text, ih, List.nil_append, List.map_cons]

theorem head?_column (text : String) (rest : List Char) :
    ((column text).chars d ++ rest).head? ≠ some 'd' := by
  have hname : ∀ name (s : Sql), (chars d (columnName name :: s) ++ rest).head? ≠ some 'd' := by
    intro name s
    rw [columnName]
    split <;> cases d <;> simp [chars, Token.text, Dialect.quoted, Dialect.quote]
  simp only [column]
  split
  · cases d <;> simp [chars, Token.text, Dialect.quoted, Dialect.quote]
  · exact hname _ _

/-- What is selected, without the words before it. -/
def selected (texts : List String) : Sql :=
  if texts.isEmpty then [.word "*"] else columns texts

theorem chars_selected_cons (text : String) (texts : List String) :
    chars d (selected (text :: texts)) =
      (column text).chars d ++ chars d (texts.flatMap fun text => .word "," :: column text) := by
  simp [selected, columns_cons, chars]

theorem head?_selected (texts : List String) (rest : List Char) :
    ((selected texts).chars d ++ rest).head? ≠ some 'd' := by
  cases texts with
  | nil => simp [selected, chars, Token.text]
  | cons text texts =>
      rw [chars_selected_cons, List.append_assoc]
      exact head?_column text _

theorem columnsFrom_selected (texts : List String) (rest : List Char) :
    (columnsFrom d.quote false [] ((selected texts).chars d ++ (" from ".toList ++ rest))).map
        String.ofList =
      d.listing texts := by
  cases texts with
  | nil =>
      have hstar : InOnePiece d.quote "*".toList := .word (by decide)
      have hchars : (selected []).chars d = "*".toList := by
        simp [selected, chars, Token.text]
      rw [hchars, hstar, columnsFrom_from]
      rfl
  | cons text texts =>
      rw [chars_selected_cons, List.append_assoc, InOnePiece.column text, columnsFrom_listed]
      simp [Dialect.listing, render]

/-- The columns of a select are read back as they are written. -/
theorem listed_selection (distinct : Bool) (texts : List String) (rest : List Char) :
    d.listed (String.ofList ((selection distinct texts).chars d ++ (" from ".toList ++ rest))) =
      d.listing texts := by
  have hchars : (selection distinct texts).chars d ++ (" from ".toList ++ rest) =
      "select ".toList ++ ((if distinct then "distinct ".toList else []) ++
        ((selected texts).chars d ++ (" from ".toList ++ rest))) := by
    cases distinct <;> simp [selection, selected, chars, Token.text]
  rw [Dialect.listed, String.toList_ofList.trans hchars, withoutWord_append,
    ← columnsFrom_selected texts rest]
  cases distinct with
  | true => simp only [if_true, withoutWord_append]
  | false =>
      have hbody : withoutWord "distinct ".toList
          ((selected texts).chars d ++ (" from ".toList ++ rest)) =
            (selected texts).chars d ++ (" from ".toList ++ rest) :=
        withoutWord_of_head? (head?_selected texts _)
      exact congrArg (fun cs => (columnsFrom d.quote false [] cs).map String.ofList) hbody

/-- What is quoted neither ends a column nor the list. -/
example :
    Dialect.generic.listed "select \"u\".\"a,b\",\"from\" as \"n\" from \"users\"" =
      ["\"u\".\"a,b\"", "\"from\" as \"n\""] := by
  decide +kernel

end Sql

end SqlMapping
