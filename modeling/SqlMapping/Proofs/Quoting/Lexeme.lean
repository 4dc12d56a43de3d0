import SqlMapping.Sql

/-! # Reading quoted identifiers

A statement is read from left to right: an identifier starts at a quote and ends at one that no
further quote follows, two quotes within it standing for one. What is written for a name reads as
one identifier, unless a quote follows it. -/

namespace SqlMapping

/-- A quoted identifier, or a character outside of identifiers. -/
inductive Lexeme where
  | identifier (name : String)
  | plain (c : Char)
  deriving DecidableEq

/-- Where reading has come to: outside of identifiers, within one, or after a quote that ends one
unless another quote follows. -/
inductive Scan where
  | outside
  | inside (name : List Char)
  | closing (name : List Char)

/-- The lexemes of a text from a state on; none when an identifier does not end. -/
def lexFrom (quote : Char) : Scan → List Char → Option (List Lexeme)
  | .outside, [] => some []
  | .outside, c :: cs =>
    if c = quote then lexFrom quote (.inside []) cs
    else (lexFrom quote .outside cs).map (.plain c :: ·)
  | .inside _, [] => none
  | .inside name, c :: cs =>
    if c = quote then lexFrom quote (.closing name) cs
    else lexFrom quote (.inside (name ++ [c])) cs
  | .closing name, [] => some [.identifier (String.ofList name)]
  | .closing name, c :: cs =>
    if c = quote then lexFrom quote (.inside (name ++ [quote])) cs
    else (lexFrom quote .outside cs).map (.identifier (String.ofList name) :: .plain c :: ·)

def lex (d : Dialect) (text : String) : Option (List Lexeme) :=
  lexFrom d.quote .outside text.toList

/-! ## A name between quotes -/

theorem lexFrom_inside_replaced (q : Char) (name cs rest : List Char) :
    lexFrom q (.inside name) (Dialect.replaced q [q, q] cs ++ q :: rest) =
      lexFrom q (.closing (name ++ cs)) rest := by
  induction cs generalizing name with
  | nil => simp [Dialect.replaced, lexFrom]
  | cons c cs ih =>
      by_cases hc : c = q
      · subst hc
        have hdouble : Dialect.replaced c [c, c] (c :: cs) =
            c :: c :: Dialect.replaced c [c, c] cs := by
          simp [Dialect.replaced]
        rw [hdouble]
        simp only [List.cons_append, lexFrom, if_true]
        rw [ih, List.append_assoc]
        rfl
      · have hsingle : Dialect.replaced q [q, q] (c :: cs) = c :: Dialect.replaced q [q, q] cs := by
          simp [Dialect.replaced, hc]
        rw [hsingle]
        simp only [List.cons_append, lexFrom, hc, if_false]
        rw [ih, List.append_assoc]
        rfl

theorem lexFrom_closing {q : Char} {rest : List Char} (h : rest.head? ≠ some q)
    (name : List Char) :
    lexFrom q (.closing name) rest =
      (lexFrom q .outside rest).map (.identifier (String.ofList name) :: ·) := by
  cases rest with
  | nil => rfl
  | cons c cs =>
      have hc : c ≠ q := by simpa using h
      simp [lexFrom, hc, Function.comp_def]

theorem lexFrom_quoted (d : Dialect) (name : String) {rest : List Char}
    (h : rest.head? ≠ some d.quote) :
    lexFrom d.quote .outside (d.quoted name ++ rest) =
      (lexFrom d.quote .outside rest).map (.identifier name :: ·) := by
  have hquoted : d.quoted name ++ rest =
      d.quote :: (Dialect.replaced d.quote [d.quote, d.quote] name.toList ++ d.quote :: rest) := by
    simp [Dialect.quoted]
  rw [hquoted]
  simp only [lexFrom, if_true]
  rw [lexFrom_inside_replaced, lexFrom_closing h]
  simp

/-- What is written for a name reads as this name, whatever quotes it holds. -/
theorem lex_quoted (d : Dialect) (name : String) :
    lex d (String.ofList (d.quoted name)) = some [.identifier name] := by
  have hend : ([] : List Char).head? ≠ some d.quote := by simp
  have h := lexFrom_quoted d name hend
  simpa [lex, lexFrom] using h

theorem lexFrom_plain {q : Char} {cs : List Char} (h : q ∉ cs) (rest : List Char) :
    lexFrom q .outside (cs ++ rest) =
      (lexFrom q .outside rest).map (cs.map .plain ++ ·) := by
  induction cs with
  | nil => simp
  | cons c cs ih =>
      obtain ⟨hc, hcs⟩ : ¬ q = c ∧ q ∉ cs := by simpa using h
      simp only [List.cons_append, lexFrom, Ne.symm hc, if_false]
      rw [ih hcs]
      simp [Function.comp_def]

/-! ## Parts of a statement -/

def Token.lexemes : Token → List Lexeme
  | word s | operator s => s.toList.map .plain
  | name s => [.identifier s]
  | mark => [.plain '?']

namespace Sql

def lexemes (s : Sql) : List Lexeme :=
  s.flatMap Token.lexemes

@[simp] theorem lexemes_nil : lexemes [] = [] := rfl

@[simp] theorem lexemes_cons (t : Token) (s : Sql) : lexemes (t :: s) = t.lexemes ++ s.lexemes :=
  rfl

@[simp] theorem lexemes_append (s t : Sql) : lexemes (s ++ t) = s.lexemes ++ t.lexemes :=
  List.flatMap_append

/-- A part of a statement reads as its tokens do, unless a quote follows it. -/
def Reads (d : Dialect) (s : Sql) : Prop :=
  ∀ rest : List Char, rest.head? ≠ some d.quote →
    lexFrom d.quote .outside (s.chars d ++ rest) =
      (lexFrom d.quote .outside rest).map (s.lexemes ++ ·)

namespace Reads

variable {d : Dialect} {s t : Sql}

theorem nil : Reads d [] := by
  intro rest _
  simp [chars]

theorem name (text : String) : Reads d [.name text] := by
  intro rest hrest
  simpa [chars, Token.text, Token.lexemes] using lexFrom_quoted d text hrest

theorem word_cons {text : String} (h : d.quote ∉ text.toList) (ht : Reads d t) :
    Reads d (.word text :: t) := by
  intro rest hrest
  have hchars : chars d (.word text :: t) ++ rest = text.toList ++ (t.chars d ++ rest) := by
    simp [chars, Token.text]
  rw [hchars, lexFrom_plain h, ht rest hrest]
  simp [Token.lexemes, Function.comp_def]

theorem word {text : String} (h : d.quote ∉ text.toList) : Reads d [.word text] :=
  word_cons h nil

theorem mark : Reads d [.mark] := by
  have hquote : d.quote ∉ "?".toList := by cases d <;> decide
  have hword : Reads d [.word "?"] := word hquote
  exact hword

theorem append (hs : Reads d s) (ht : Reads d t) (h : (t.chars d).head? ≠ some d.quote) :
    Reads d (s ++ t) := by
  intro rest hrest
  have hnext : (t.chars d ++ rest).head? ≠ some d.quote := by
    cases hc : t.chars d with
    | nil => simpa using hrest
    | cons c cs => simpa [hc] using h
  have hchars : (s ++ t).chars d ++ rest = s.chars d ++ (t.chars d ++ rest) := by
    simp [chars]
  rw [hchars, hs _ hnext, ht _ hrest]
  simp [Function.comp_def]

/-- Wording keeps the identifiers before it and after it apart. -/
theorem around {text : String} (hs : Reads d s) (ht : Reads d t) (hquote : d.quote ∉ text.toList)
    (hne : text.toList ≠ []) : Reads d (s ++ .word text :: t) := by
  refine hs.append (word_cons hquote ht) ?_
  obtain ⟨c, cs, hcs⟩ := List.exists_cons_of_ne_nil hne
  have hc : c ≠ d.quote := by
    rintro rfl
    simp [hcs] at hquote
  simpa [chars, Token.text, hcs] using hc

theorem lex (h : Reads d s) : lex d (s.render d) = some s.lexemes := by
  have h := h [] (by simp)
  simpa [SqlMapping.lex, render, lexFrom] using h

end Reads

end Sql

end SqlMapping
