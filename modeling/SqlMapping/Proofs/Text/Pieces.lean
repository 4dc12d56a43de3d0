import Mathlib.Data.List.Basic
import SqlMapping.Text.Pieces

/-! # Joined pieces

What is appended for some pieces: those that are not empty, with the separator between any two of
them. A separator that was written for an empty piece is taken back, so that it depends on the
pieces kept before whether one is written. -/

namespace SqlMapping.Text

variable {α : Type} {separator : List α}

/-! ## One piece -/

@[simp] theorem appendPieces_nil (first : Bool) (out : List α) :
    appendPieces separator first out [] = out := rfl

/-- A piece that is empty leaves no trace. -/
@[simp] theorem appendPieces_nil_cons (first : Bool) (out : List α) (ps : List (List α)) :
    appendPieces separator first out ([] :: ps) = appendPieces separator first out ps := by
  cases first <;> simp [appendPieces]

theorem appendPieces_cons {p : List α} (h : p ≠ []) (first : Bool) (out : List α)
    (ps : List (List α)) :
    appendPieces separator first out (p :: ps) =
      appendPieces separator false (out ++ (if first then [] else separator) ++ p) ps := by
  have hlength : p.length ≠ 0 := by simpa using h
  cases first <;> simp [appendPieces, h]

/-! ## All pieces -/

theorem intercalate_cons (p : List α) (ps : List (List α)) :
    separator.intercalate (p :: ps) = p ++ ps.flatMap (separator ++ ·) := by
  induction ps generalizing p with
  | nil => simp
  | cons q qs ih => rw [List.intercalate_cons_cons, ih]; simp

/-- The flag tells how the pieces that are kept go on from the buffer: the first of all without a
separator, and each one after it with its own. -/
theorem appendPieces_eq (first : Bool) (out : List α) (ps : List (List α)) :
    appendPieces separator first out ps =
      out ++ if first then separator.intercalate (ps.filter (!·.isEmpty))
        else (ps.filter (!·.isEmpty)).flatMap (separator ++ ·) := by
  induction ps generalizing first out with
  | nil => cases first <;> simp
  | cons p ps ih =>
      by_cases hp : p = []
      · subst hp
        simpa using ih first out
      · rw [appendPieces_cons hp, ih]
        cases first <;> simp [hp, intercalate_cons]

theorem joinPieces_eq (ps : List (List α)) :
    joinPieces separator ps = separator.intercalate (ps.filter (!·.isEmpty)) := by
  simp [joinPieces, appendPieces_eq]

@[simp] theorem joinPieces_nil : joinPieces separator [] = [] := rfl

@[simp] theorem joinPieces_nil_cons (ps : List (List α)) :
    joinPieces separator ([] :: ps) = joinPieces separator ps := by
  simp [joinPieces]

/-- After a first piece, each further piece that is not empty brings its separator. -/
theorem joinPieces_cons {p : List α} (h : p ≠ []) (ps : List (List α)) :
    joinPieces separator (p :: ps) =
      p ++ (ps.filter (!·.isEmpty)).flatMap (separator ++ ·) := by
  simp [joinPieces_eq, h, intercalate_cons]

/-- No piece that is empty: the separator stands between any two. -/
theorem joinPieces_eq_intercalate {ps : List (List α)} (h : ∀ p ∈ ps, p ≠ []) :
    joinPieces separator ps = separator.intercalate ps := by
  have hfull : ps.filter (!·.isEmpty) = ps := by
    rw [List.filter_eq_self]
    intro p hp
    simpa using h p hp
  rw [joinPieces_eq, hfull]

/-- Each piece stands in the joined pieces. -/
theorem exists_joinPieces_of_mem {ps : List (List α)} {p : List α} (h : p ∈ ps) :
    ∃ before after, joinPieces separator ps = before ++ p ++ after := by
  induction ps with
  | nil => cases h
  | cons q qs ih =>
      by_cases hq : q = []
      · subst hq
        rw [joinPieces_nil_cons]
        rcases List.mem_cons.mp h with rfl | h
        · exact ⟨[], joinPieces separator qs, rfl⟩
        · exact ih h
      rw [joinPieces_cons hq]
      rcases List.mem_cons.mp h with rfl | h
      · exact ⟨[], _, rfl⟩
      by_cases hp : p = []
      · exact ⟨_, [], by rw [hp, List.append_nil, List.append_nil]⟩
      have hmem : p ∈ qs.filter (!·.isEmpty) := List.mem_filter.mpr ⟨h, by simpa using hp⟩
      obtain ⟨before, after, hsplit⟩ := List.append_of_mem hmem
      refine ⟨q ++ before.flatMap (separator ++ ·) ++ separator, after.flatMap (separator ++ ·), ?_⟩
      rw [hsplit]
      simp

/-- What holds of the separator and of each piece, and of two texts together when it holds of
each, holds of the joined pieces. -/
theorem joinPieces_induction {P : List α → Prop} (nil : P [])
    (append : ∀ s t, P s → P t → P (s ++ t)) (hseparator : P separator)
    {ps : List (List α)} (h : ∀ p ∈ ps, P p) : P (joinPieces separator ps) := by
  have hfrom : ∀ first out, P out → P (appendPieces separator first out ps) := by
    induction ps with
    | nil => exact fun _ _ hout => hout
    | cons p ps ih =>
        intro first out hout
        have ih := ih fun q hq => h q (List.mem_cons_of_mem p hq)
        by_cases hp : p = []
        · subst hp
          rw [appendPieces_nil_cons]
          exact ih first out hout
        · rw [appendPieces_cons hp]
          apply ih false
          apply append _ _ _ (h _ List.mem_cons_self)
          apply append _ _ hout
          cases first with
          | true => exact nil
          | false => exact hseparator
  exact hfrom true [] nil

/-! ## Texts -/

/-- Separated texts stand behind what was there, in their order and without those that are empty.
The separator is between any two neighbours: not before the first, nor after the last. -/
theorem appendSeparated_eq_intercalate (out : String) (texts : List String) (separator : String) :
    appendSeparated out texts separator =
      out ++ separator.intercalate (texts.filter (!·.isEmpty)) := by
  have hkept : (texts.map String.toList).filter (!·.isEmpty) =
      (texts.filter (!·.isEmpty)).map String.toList := by
    rw [List.filter_map]
    congr 2
    funext text
    rw [Bool.eq_iff_iff]
    simp
  apply String.toList_inj.mp
  simp [appendSeparated, appendPieces_eq, hkept]

example : appendSeparated "select " ["", "id", "", "", "name", ""] "," = "select id,name" := by
  decide +kernel

end SqlMapping.Text
