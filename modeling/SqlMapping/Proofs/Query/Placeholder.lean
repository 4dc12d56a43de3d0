import SqlMapping.Proofs.Text.Pieces
import SqlMapping.Query.Compile

/-!
# Placeholders

A placeholder is a question mark in the text of a statement that stands neither in a quoted
identifier nor in an operator given by the caller.
-/

namespace SqlMapping

/-- What a token adds to the text outside identifiers and given operators. -/
def Token.wording : Token → List Char
  | word s => s.toList
  | mark => ['?']
  | name _ | operator _ => []

namespace Sql

/-- The number of placeholders in the text of a statement. -/
def slots (s : Sql) : Nat :=
  (s.flatMap Token.wording).count '?'

@[simp] theorem slots_nil : slots [] = 0 := rfl

@[simp] theorem slots_append (s t : Sql) :
    slots (s ++ t) = slots s + slots t := by
  simp [slots]

@[simp] theorem slots_word (w : String) (s : Sql) :
    slots (.word w :: s) = w.toList.count '?' + slots s := by
  simp [slots, Token.wording]

@[simp] theorem slots_name (n : String) (s : Sql) :
    slots (.name n :: s) = slots s := rfl

@[simp] theorem slots_operator (o : String) (s : Sql) :
    slots (.operator o :: s) = slots s := rfl

@[simp] theorem slots_mark (s : Sql) : slots (.mark :: s) = slots s + 1 := by
  simp [slots, Token.wording]

/-! ## Parts without placeholders -/

@[simp] theorem slots_columnName (name : String) : slots [columnName name] = 0 := by
  unfold columnName
  split
  · rfl
  · rfl

@[simp] theorem slots_column (text : String) : slots (column text) = 0 := by
  unfold column
  simp only [slots_append]
  split <;> split <;> simp

theorem slots_joinPieces {separator : Sql} {ps : List Sql}
    (hseparator : slots separator = 0) (h : ∀ p ∈ ps, slots p = 0) :
    slots (Text.joinPieces separator ps) = 0 := by
  apply Text.joinPieces_induction (P := fun s : Sql => slots s = 0) rfl
  · intro s t hs ht
    rw [slots_append, hs, ht]
  · exact hseparator
  · exact h

@[simp] theorem slots_columns (texts : List String) : slots (columns texts) = 0 := by
  apply slots_joinPieces rfl
  simp

@[simp] theorem slots_tableRef (t : TableRef) : slots (tableRef t) = 0 := by
  unfold tableRef table
  split
  · rfl
  · split <;> simp

@[simp] theorem slots_selection (distinct : Bool) (texts : List String) :
    slots (selection distinct texts) = 0 := by
  unfold selection
  split <;> split <;> simp

@[simp] theorem slots_source (t : TableRef) : slots (source t) = 0 := by
  simp [source]

@[simp] theorem slots_order (texts : List String) (direction : Direction) :
    slots (order texts direction) = 0 := by
  unfold order
  cases direction <;> split <;> simp [Direction.word]

theorem count_toDigits (n : Nat) : (Nat.toDigits 10 n).count '?' = 0 := by
  rw [List.count_eq_zero]
  intro h
  have hdigit : '?'.isDigit = true := Nat.isDigit_of_mem_toDigits (by decide) (by decide) h
  exact absurd hdigit (by decide)

@[simp] theorem slots_page (limit offset : Option Nat) : slots (page limit offset) = 0 := by
  cases limit with
  | none =>
      cases offset with
      | none => rfl
      | some m => simpa [page] using ⟨rfl, count_toDigits m⟩
  | some n =>
      cases offset with
      | none => simpa [page] using ⟨rfl, count_toDigits n⟩
      | some m => simpa [page] using ⟨rfl, count_toDigits n, rfl, count_toDigits m⟩

@[simp] theorem slots_joinCondition (first : Bool) (c : JoinCondition) :
    slots (joinCondition first c) = 0 := by
  cases first <;> cases h : c.logic <;> simp [joinCondition, Logic.word, h]

@[simp] theorem slots_joinConditions (on : List JoinCondition) : slots (joinConditions on) = 0 := by
  have hrest : ∀ cs : List JoinCondition, slots (cs.flatMap (joinCondition false)) = 0 := by
    intro cs
    induction cs with
    | nil => rfl
    | cons c cs ih => simp [ih]
  cases on with
  | nil => rfl
  | cons c cs => simp [joinConditions, hrest]

/-! ## The placeholders of values -/

/-- Copies of a text between commas have its placeholders as often as there are copies. -/
theorem slots_replicate {s : Sql} (h : s ≠ []) (n : Nat) :
    slots (Text.joinPieces [.word ","] (List.replicate n s)) = n * slots s := by
  cases n with
  | zero => simp
  | succ n =>
      have hfilter : (List.replicate n s).filter (!·.isEmpty) = List.replicate n s := by
        simp [h]
      have hrest : slots ((List.replicate n s).flatMap ([.word ","] ++ ·)) = n * slots s := by
        induction n with
        | zero => simp
        | succ n ih => simp_all [List.replicate_succ, Nat.succ_mul, Nat.add_comm]
      rw [List.replicate_succ, Text.joinPieces_cons h, hfilter, slots_append, hrest, Nat.succ_mul,
        Nat.add_comm]

/-- Between commas there are as many placeholders as are asked for. -/
@[simp] theorem slots_placeholders (n : Nat) : slots (placeholders n) = n := by
  simpa [placeholders] using slots_replicate (s := [.mark]) (by simp) n

/-- A value takes a placeholder for each value that is bound for it. -/
@[simp] theorem slots_placeholdersFor (v : Value) :
    slots (placeholdersFor v) = v.bound.length := by
  cases v with
  | list items => simp [placeholdersFor, Value.bound, List.countP_eq_length_filter]
  | record entries => rfl
  | null => rfl
  | boolean b => cases b <;> rfl
  | integer t n => cases n <;> rfl
  | float t x => cases x <;> rfl
  | text s => cases s <;> rfl
  | blob b => cases b <;> rfl
  | timestamp t => cases t <;> rfl

end Sql

/-- No operator of a dialect reads as a placeholder. -/
theorem Dialect.count_operator {d : Dialect} {operator op : String}
    (h : d.operator operator = .ok op) : op.toList.count '?' = 0 := by
  have hall : ∀ o ∈ d.operators, o.toList.count '?' = 0 := by
    cases d <;> decide
  unfold Dialect.operator at h
  split at h
  · cases h
    rfl
  · split at h
    · rename_i hmem
      cases h
      exact hall operator (by simpa using hmem)
    · cases h

end SqlMapping
